import Mathlib.Data.List.Basic
import SchemaCheck.Proofs.Validation.Engine

/-!
Schemas that ask for less. One schema relaxes another when it has the same kinds and lacks some of
the other one's rules, element nodes and declared fields, at any depth (`Node.Relaxes`). It finds
nothing that the other one does not find, and what it finds it finds in the same order
(`relaxed_errors_sublist`).

A rule that goes may not bring others to light. This is why a pattern may only go when it compiles:
behind one that does not, the rest of its node is not checked.
-/

namespace SchemaCheck

open Json (Value)
open Reference

def KeptOrGone {α : Type} (weak strong : Option α) : Prop := weak = strong ∨ weak = none

@[elab_as_elim]
theorem KeptOrGone.elim {α : Type} {motive : Option α → Prop} {weak strong : Option α}
    (change : KeptOrGone weak strong) (kept : motive strong) (gone : motive none) :
    motive weak := by
  rcases change with rfl | rfl
  · exact kept
  · exact gone

/-- Rules of the same kind that ask for less. -/
structure Rules.Relaxes (weak strong : Rules) : Prop where
  kind : weak.kind = strong.kind
  format : KeptOrGone weak.format strong.format
  minimum : KeptOrGone weak.minimum strong.minimum
  maximum : KeptOrGone weak.maximum strong.maximum
  minLength : KeptOrGone weak.minLength strong.minLength
  maxLength : KeptOrGone weak.maxLength strong.maxLength
  pattern : weak.pattern = strong.pattern ∨
    weak.pattern = none ∧ ∀ source ∈ strong.pattern, Pattern.compiles source = true
  allowed : weak.allowed = strong.allowed ∨ weak.allowed = []
  required : weak.required.Sublist strong.required
  customValidator : KeptOrGone weak.customValidator strong.customValidator

mutual

/-- A node that asks for less, by itself and in its parts. -/
inductive Node.Relaxes : Node → Node → Prop where
  | intro {weak strong : Rules} {weakItems items : Option Node}
    {weakProperties properties : List (String × Node)} (own : weak.Relaxes strong)
    (ofItems : ItemsRelax weakItems items)
    (ofProperties : PropertiesRelax weakProperties properties) :
    Node.Relaxes ⟨weak, weakItems, weakProperties⟩ ⟨strong, items, properties⟩

/-- The node of the elements is relaxed or goes. -/
inductive ItemsRelax : Option Node → Option Node → Prop where
  | gone (items : Option Node) : ItemsRelax none items
  | kept {weak node : Node} (relaxes : Node.Relaxes weak node) : ItemsRelax (some weak) (some node)

inductive PropertiesRelax : List (String × Node) → List (String × Node) → Prop where
  | nil : PropertiesRelax [] []
  | gone {weak rest : List (String × Node)} (entry : String × Node)
    (relax : PropertiesRelax weak rest) : PropertiesRelax weak (entry :: rest)
  | kept {name : String} {weak node : Node} {weakRest rest : List (String × Node)}
    (relaxes : Node.Relaxes weak node) (relax : PropertiesRelax weakRest rest) :
    PropertiesRelax ((name, weak) :: weakRest) ((name, node) :: rest)

end

theorem Node.Relaxes.own {weak node : Node} (relaxes : weak.Relaxes node) :
    weak.rules.Relaxes node.rules := by
  obtain ⟨own, _, _⟩ := relaxes
  exact own

namespace Rules

variable {weak strong : Rules}

namespace Relaxes

variable (relaxes : weak.Relaxes strong)
include relaxes

theorem lengthViolations (text : String) :
    (weak.lengthViolations text).Sublist (strong.lengthViolations text) := by
  refine List.Sublist.append ?_ ?_
  · exact relaxes.minLength.elim (List.Sublist.refl _) (List.nil_sublist _)
  · exact relaxes.maxLength.elim (List.Sublist.refl _) (List.nil_sublist _)

theorem allowedViolations (text : String) :
    (weak.allowedViolations text).Sublist (strong.allowedViolations text) := by
  unfold Rules.allowedViolations
  rcases relaxes.allowed with kept | gone
  · rw [kept]
  · rw [gone]
    exact List.nil_sublist _

theorem formatViolations (text : String) :
    (weak.formatViolations text).Sublist (strong.formatViolations text) := by
  unfold Rules.formatViolations
  exact relaxes.format.elim (List.Sublist.refl _) (List.nil_sublist _)

/-- A pattern that goes compiles, so that the rules behind it were checked before. -/
theorem textViolations (text : String) :
    (weak.textViolations text).1.Sublist (strong.textViolations text).1 ∧
      (weak.textViolations text).2 = (strong.textViolations text).2 := by
  have lengths := relaxes.lengthViolations text
  have rest := (relaxes.allowedViolations text).append (relaxes.formatViolations text)
  unfold Rules.textViolations
  rcases relaxes.pattern with kept | ⟨gone, compiles⟩
  · rw [kept]
    cases strong.pattern with
    | none => exact ⟨lengths.append rest, rfl⟩
    | some source =>
      cases compiled : Pattern.ofText? source with
      | none => simpa only [compiled, and_true] using lengths.append (List.Sublist.refl _)
      | some pattern =>
        simp only [compiled]
        split
        · exact ⟨lengths.append rest, rfl⟩
        · exact ⟨lengths.append (rest.cons_cons _), rfl⟩
  · rw [gone]
    cases given : strong.pattern with
    | none => exact ⟨lengths.append rest, rfl⟩
    | some source =>
      obtain ⟨pattern, compiled⟩ := Option.isSome_iff_exists.mp (compiles source given)
      simp only [compiled]
      split
      · exact ⟨lengths.append rest, rfl⟩
      · exact ⟨lengths.append (rest.cons _), rfl⟩

theorem numberViolations (x : Binary64) :
    (weak.numberViolations x).Sublist (strong.numberViolations x) := by
  refine List.Sublist.append ?_ ?_
  · exact relaxes.minimum.elim (List.Sublist.refl _) (List.nil_sublist _)
  · exact relaxes.maximum.elim (List.Sublist.refl _) (List.nil_sublist _)

theorem missingFindings (location : Location) (fields : List (String × Value)) :
    (weak.missingFindings location fields).Sublist (strong.missingFindings location fields) :=
  (relaxes.required.filter _).map _

theorem customFindings (registry : Registry) (location : Location) (value : Value) :
    (weak.customFindings registry location value).Sublist
      (strong.customFindings registry location value) := by
  refine List.Sublist.map _ ?_
  unfold customViolations
  exact relaxes.customValidator.elim (List.Sublist.refl _) (List.nil_sublist _)

theorem proceeds (content : Value) : weak.proceeds content = strong.proceeds content := by
  cases content with
  | string text => exact (relaxes.textViolations text).2
  | _ => rfl

end Relaxes

end Rules

section Findings

variable {settings : ValidationSettings} {registry : Registry}

theorem elementFindings_sublist {less more : Location → Value → List Finding}
    (sublist : ∀ location value, (less location value).Sublist (more location value))
    (location : Location) (index : Nat) (values : List Value) :
    (elementFindings less location index values).Sublist
      (elementFindings more location index values) := by
  induction values generalizing index with
  | nil => exact List.Sublist.refl _
  | cons value rest ih => exact (sublist _ value).append (ih (index + 1))

theorem fieldFindings_sublist {less more : Location → Value → List Finding}
    (sublist : ∀ location value, (less location value).Sublist (more location value))
    (location : Location) (name : String) (fields : List (String × Value)) :
    (fieldFindings less location name fields).Sublist
      (fieldFindings more location name fields) := by
  unfold fieldFindings
  cases Fields.get? fields name with
  | none => exact List.Sublist.refl _
  | some value => exact sublist _ value

/-- What is to be shown of a node: nodes that relax it find less. -/
def BoundsRelaxed (settings : ValidationSettings) (registry : Registry) (node : Node) : Prop :=
  ∀ weak : Node, weak.Relaxes node → ∀ (location : Location) (value : Value),
    (nodeFindings settings registry weak location value).Sublist
      (nodeFindings settings registry node location value)

theorem itemFindings_relaxed {weak items : Option Node} (relax : ItemsRelax weak items)
    (bounds : ∀ node ∈ items, BoundsRelaxed settings registry node) (location : Location)
    (values : List Value) :
    (itemFindings settings registry weak location values).Sublist
      (itemFindings settings registry items location values) := by
  cases relax with
  | gone => simp only [itemFindings, List.nil_sublist]
  | kept relaxes =>
    simp only [itemFindings]
    exact elementFindings_sublist (bounds _ rfl _ relaxes) location 0 values

theorem propertyFindings_relaxed {weak properties : List (String × Node)}
    (relax : PropertiesRelax weak properties)
    (bounds : ∀ entry ∈ properties, BoundsRelaxed settings registry entry.2) (location : Location)
    (fields : List (String × Value)) :
    (propertyFindings settings registry weak location fields).Sublist
      (propertyFindings settings registry properties location fields) := by
  induction properties generalizing weak with
  | nil =>
    cases relax
    exact List.Sublist.refl _
  | cons entry rest ih =>
    have later {weak : List (String × Node)} (relax : PropertiesRelax weak rest) :=
      ih relax fun entry member => bounds entry (List.mem_cons_of_mem _ member)
    rw [propertyFindings]
    cases relax with
    | gone _ relax => exact (later relax).trans (List.sublist_append_right _ _)
    | kept relaxes relax =>
      rw [propertyFindings]
      have here := fieldFindings_sublist (bounds _ List.mem_cons_self _ relaxes)
      exact (here location _ fields).append (later relax)

theorem contentFindings_relaxed {weak node : Node} (relaxes : Node.Relaxes weak node)
    (ofItems : ∀ item ∈ node.items, BoundsRelaxed settings registry item)
    (ofProperties : ∀ entry ∈ node.properties, BoundsRelaxed settings registry entry.2)
    (location : Location) (content : Value) :
    (contentFindings settings registry weak location content).Sublist
      (contentFindings settings registry node location content) := by
  obtain ⟨own, itemsRelax, propertiesRelax⟩ := relaxes
  cases content with
  | object fields =>
    exact (own.missingFindings location fields).append
      (propertyFindings_relaxed propertiesRelax ofProperties location fields)
  | array values => exact itemFindings_relaxed itemsRelax ofItems location values
  | string text => exact (own.textViolations text).1.map _
  | number n => exact (own.numberViolations n.toBinary64).map _
  | _ => exact List.Sublist.refl _

/-- A node that relaxes another one ends where the other one ends, and finds less on its way. -/
theorem nodeFindings_relaxed (node : Node) : BoundsRelaxed settings registry node := by
  induction node using Node.induction with
  | step rules items properties ofItems ofProperties =>
    intro weak relaxes location value
    have content := contentFindings_relaxed relaxes ofItems ofProperties location
    have own := relaxes.own
    by_cases deep : settings.maxDepth < location.depth
    · rw [nodeFindings_deep deep, nodeFindings_deep deep]
    cases expected : rules.kind with
    | none =>
      rw [nodeFindings_untyped deep (own.kind.trans expected), nodeFindings_untyped deep expected]
      exact own.customFindings registry location value
    | some kind =>
      cases adapted : settings.adapt? kind value with
      | none =>
        rw [nodeFindings_mismatch deep (own.kind.trans expected) adapted,
          nodeFindings_mismatch deep expected adapted]
      | some taken =>
        rw [nodeFindings_content deep (own.kind.trans expected) adapted,
          nodeFindings_content deep expected adapted, own.proceeds]
        refine (content taken).append ?_
        split
        · exact own.customFindings registry location taken
        · exact List.Sublist.refl _

end Findings

/-- With any settings, checks and engines, a schema that relaxes another one lists some of the other
one's errors in the same order, and what is valid for the other one is valid for it. -/
theorem relaxed_errors_sublist {weak schema : Schema} (relaxes : weak.node.Relaxes schema.node)
    {settings : ValidationSettings} {registry : Registry} {first second : Validator}
    (isFirst : first.Ready settings registry) (isSecond : second.Ready settings registry)
    (value : Value) :
    ∃ less more firstNext secondNext,
      first.validate weak value = some (less, firstNext) ∧
      second.validate schema value = some (more, secondNext) ∧
      less.errors.Sublist more.errors ∧ (more.valid = true → less.valid = true) := by
  obtain ⟨firstNext, validated, _⟩ := isFirst.validate_eq weak value
  obtain ⟨secondNext, revalidated, _⟩ := isSecond.validate_eq schema value
  have fewer : (validate settings registry weak value).errors.Sublist
      (validate settings registry schema value).errors :=
    (nodeFindings_relaxed schema.node weak.node relaxes .root value).map Finding.message
  refine ⟨_, _, firstNext, secondNext, validated, revalidated, fewer, fun valid => ?_⟩
  have nothing : (validate settings registry schema value).errors = [] := List.isEmpty_iff.mp valid
  exact List.isEmpty_iff.mpr (List.sublist_nil.mp (nothing ▸ fewer))

/-- A record without two of its fields, and with a code that is too short and of another form. The
schema without one of the required fields and without the form of the code finds less. -/
theorem relaxed_errors_sublist_record :
    let schema := Schema.ofNode
      ((((Node.ofKind .object).require "name").require "mail").withProperty "code"
        { rules := { kind := some .string, minLength := some 2, pattern := some "^a" } })
    let weak := Schema.ofNode (((Node.ofKind .object).require "mail").withProperty "code"
      { rules := { kind := some .string, minLength := some 2 } })
    let value := Value.object [("code", .string "b")]
    let validator := Validator.create .optimized (.strict 8)
    weak.node.Relaxes schema.node ∧ validator.Ready (.strict 8) .standard ∧
    ∃ less more firstNext secondNext,
      validator.validate weak value = some (less, firstNext) ∧
      validator.validate schema value = some (more, secondNext) ∧
      less.errors.Sublist more.errors := by
  intro schema weak value validator
  have code : Rules.Relaxes { kind := some .string, minLength := some 2 }
      { kind := some .string, minLength := some 2, pattern := some "^a" } := by
    refine ⟨rfl, .inl rfl, .inl rfl, .inl rfl, .inl rfl, .inl rfl, .inr ⟨rfl, ?_⟩, .inl rfl,
      List.Sublist.refl _, .inl rfl⟩
    rintro source ⟨⟩
    decide +kernel
  have record : weak.node.rules.Relaxes schema.node.rules :=
    ⟨rfl, .inl rfl, .inl rfl, .inl rfl, .inl rfl, .inl rfl, .inl rfl, .inl rfl,
      (List.Sublist.refl ["mail"]).cons "name", .inl rfl⟩
  have relaxes : weak.node.Relaxes schema.node :=
    .intro record (.gone none) (.kept (.intro code (.gone none) .nil) .nil)
  have ready : validator.Ready (.strict 8) .standard := Validator.create_ready .optimized _
  obtain ⟨less, more, firstNext, secondNext, validated, revalidated, fewer, _⟩ :=
    relaxed_errors_sublist relaxes ready ready value
  exact ⟨relaxes, ready, less, more, firstNext, secondNext, validated, revalidated, fewer⟩

end SchemaCheck

import SchemaCheck.Proofs.Text.Digits
import SchemaCheck.Proofs.Validation.Scratch
import SchemaCheck.Proofs.Validation.Visit

/-!
Paths as texts. Behind another step every step starts with a mark, a point or an opening bracket,
and a plain name holds neither, so a path falls apart into its steps in one way only
(`path_identifies`). The buffer of the optimized engine grows by the same texts.
-/

namespace SchemaCheck

open Text

def Scratch.enter (scratch : Scratch) : Step → Scratch
  | .field name => scratch.enterField name
  | .element index => scratch.enterElement index

namespace Step

/-- A name that cannot be mistaken for several steps, or for none. -/
def Plain : Step → Prop
  | .field name => name ≠ "" ∧ '.' ∉ name.toList ∧ '[' ∉ name.toList
  | .element _ => True

/-- Whether a character goes on with a name, rather than starts the next step. -/
def isWithin (c : Char) : Bool := c != '.' && c != '['

def suffix : Step → List Char
  | .field name => '.' :: name.toList
  | .element index => '[' :: (digitsOf index ++ [']'])

def suffixes (steps : List Step) : List Char := steps.flatMap suffix

/-- The path to which steps lead from the root, where no point stands in front of a name. -/
def pathText : List Step → List Char
  | [] => []
  | .field name :: rest => name.toList ++ suffixes rest
  | .element index :: rest => suffixes (.element index :: rest)

variable {step : Step} {steps others : List Step}

theorem noneAhead_suffixes (steps : List Step) : NoneAhead isWithin (suffixes steps) := by
  cases steps with
  | nil => exact noneAhead_nil
  | cons step rest => cases step <;> exact noneAhead_cons rfl _

theorem Plain.name {name : String} (plain : (field name).Plain) :
    name.toList ≠ [] ∧ ∀ c ∈ name.toList, isWithin c = true := by
  obtain ⟨filled, noPoint, noBracket⟩ := plain
  refine ⟨fun empty => filled (String.toList_eq_nil_iff.mp empty), fun c member => ?_⟩
  have notPoint : c ≠ '.' := fun same => noPoint (same ▸ member)
  have notBracket : c ≠ '[' := fun same => noBracket (same ▸ member)
  rw [isWithin, Bool.and_eq_true, bne_iff_ne, bne_iff_ne]
  exact ⟨notPoint, notBracket⟩

/-- A name ends where the next step starts. -/
theorem name_inj {name other : String} (plain : (field name).Plain) (also : (field other).Plain)
    (same : name.toList ++ suffixes steps = other.toList ++ suffixes others) :
    name = other ∧ suffixes steps = suffixes others := by
  obtain ⟨names, behind⟩ := run_inj plain.name.2 also.name.2 (noneAhead_suffixes steps)
    (noneAhead_suffixes others) same
  exact ⟨String.toList_inj.mp names, behind⟩

theorem index_inj {index other : Nat} {rest behind : List Char}
    (same : digitsOf index ++ ']' :: rest = digitsOf other ++ ']' :: behind) :
    index = other ∧ rest = behind := by
  obtain ⟨digits, brackets⟩ := run_inj (digitsOf_all index) (digitsOf_all other)
    (noDigitAhead_cons ']' rfl rest) (noDigitAhead_cons ']' rfl behind) same
  refine ⟨?_, (List.cons.inj brackets).2⟩
  rw [← numeral_digitsOf index, digits, numeral_digitsOf]

theorem suffixes_inj (plain : ∀ step ∈ steps, step.Plain) (also : ∀ step ∈ others, step.Plain)
    (same : suffixes steps = suffixes others) : steps = others := by
  induction steps generalizing others with
  | nil =>
    cases others with
    | nil => rfl
    | cons step rest => cases step <;> cases same
  | cons step rest ih =>
    obtain ⟨here, behind⟩ := List.forall_mem_cons.mp plain
    cases others with
    | nil => cases step <;> cases same
    | cons other others =>
      obtain ⟨there, beyond⟩ := List.forall_mem_cons.mp also
      simp only [suffixes, List.flatMap_cons] at same
      cases step with
      | field name =>
        cases other with
        | field otherName =>
          obtain ⟨rfl, left⟩ := name_inj here there (List.cons.inj same).2
          rw [ih behind beyond left]
        | element index => cases same
      | element index =>
        cases other with
        | field name => cases same
        | element otherIndex =>
          simp only [suffix, List.cons_append, List.append_assoc, List.nil_append,
            List.cons.injEq, true_and] at same
          obtain ⟨rfl, left⟩ := index_inj same
          rw [ih behind beyond left]

theorem pathText_ne_nil (plain : step.Plain) : pathText (step :: steps) ≠ [] := by
  cases step with
  | field name => exact List.append_ne_nil_of_left_ne_nil plain.name.1 _
  | element index => exact List.cons_ne_nil _ _

theorem name_ne_index {name : String} (plain : (field name).Plain) (index : Nat) :
    pathText (field name :: steps) ≠ pathText (element index :: others) := by
  obtain ⟨filled, within⟩ := plain.name
  obtain ⟨c, rest, spelled⟩ := List.exists_cons_of_ne_nil filled
  have inside : isWithin c = true := within c (spelled ▸ List.mem_cons_self)
  intro same
  rw [pathText, spelled] at same
  rw [(List.cons.inj same).1] at inside
  cases inside

theorem pathText_inj (plain : ∀ step ∈ steps, step.Plain) (also : ∀ step ∈ others, step.Plain)
    (same : pathText steps = pathText others) : steps = others := by
  cases steps with
  | nil =>
    cases others with
    | nil => rfl
    | cons other others => exact absurd same.symm (pathText_ne_nil (also _ List.mem_cons_self))
  | cons step rest =>
    obtain ⟨here, behind⟩ := List.forall_mem_cons.mp plain
    cases others with
    | nil => exact absurd same (pathText_ne_nil here)
    | cons other others =>
      obtain ⟨there, beyond⟩ := List.forall_mem_cons.mp also
      cases step with
      | field name =>
        cases other with
        | field otherName =>
          obtain ⟨rfl, left⟩ := name_inj here there same
          rw [suffixes_inj behind beyond left]
        | element index => exact absurd same (name_ne_index here index)
      | element index =>
        cases other with
        | field name => exact absurd same.symm (name_ne_index there index)
        | element otherIndex => exact suffixes_inj plain also same

theorem pathText_snoc_field (steps : List Step) (name : String) :
    pathText (steps ++ [field name]) =
      pathText steps ++ (if steps.isEmpty then name.toList else '.' :: name.toList) := by
  cases steps with
  | nil => exact List.append_nil _
  | cons step rest => cases step <;> simp [pathText, suffixes, suffix]

theorem pathText_snoc_element (steps : List Step) (index : Nat) :
    pathText (steps ++ [element index]) = pathText steps ++ (element index).suffix := by
  cases steps with
  | nil => exact List.append_nil _
  | cons step rest => cases step <;> simp [pathText, suffixes, suffix]

end Step

namespace Location

open Step

variable {route other : List Step}

theorem element_toList (location : Location) (index : Nat) :
    (location.element index).path.toList = location.path.toList ++ (Step.element index).suffix := by
  have digits : (toString index).toList = digitsOf index := by
    rw [Nat.toString_eq_repr, Nat.toList_repr]
    rfl
  rw [element_path, String.toList_append, String.toList_append, String.toList_append, digits]
  rfl

theorem ofRoute_path (plain : ∀ step ∈ route, step.Plain) :
    (ofRoute route).path.toList = pathText route := by
  induction route using List.reverseRecOn with
  | nil => rfl
  | append_singleton route last ih =>
    have before := ih fun step member => plain step (List.mem_append_left _ member)
    rw [ofRoute_snoc]
    cases last with
    | field name =>
      have atRoot : (ofRoute route).path.isEmpty = route.isEmpty := by
        rw [Bool.eq_iff_iff, String.isEmpty_iff, ← String.toList_eq_nil_iff, before,
          List.isEmpty_iff]
        cases route with
        | nil => exact iff_of_true rfl rfl
        | cons first rest =>
          have filled : pathText (first :: rest) ≠ [] := pathText_ne_nil (plain first (by simp))
          exact iff_of_false filled (List.cons_ne_nil _ _)
      rw [step, pathText_snoc_field, ← before, field_path, Scratch.fieldSuffix, atRoot,
        String.toList_append]
      cases route.isEmpty <;> simp
    | element index => rw [step, pathText_snoc_element, ← before, element_toList]

theorem enter_path (route : List Step) {scratch : Scratch} (empty : scratch.path = "") :
    (route.foldl Scratch.enter scratch).path = (ofRoute route).path := by
  induction route using List.reverseRecOn with
  | nil => exact empty
  | append_singleton route last ih =>
    rw [List.foldl_append, List.foldl_cons, List.foldl_nil, ofRoute_snoc]
    cases last with
    | field name =>
      rw [Scratch.enter, Scratch.enterField_eq, Scratch.extend_path, ih, step, field_path]
    | element index =>
      rw [Scratch.enter, Scratch.enterElement, Scratch.extend_path, ih, step, element_path]

/-- Plain names and indices are read back from the path that they make, both where paths are put
together and where they grow in a buffer. -/
theorem path_identifies (plain : ∀ step ∈ route, step.Plain) (also : ∀ step ∈ other, step.Plain) :
    ((ofRoute route).path = (ofRoute other).path ↔ route = other) ∧
    ∀ scratch : Scratch, scratch.path = "" →
      (route.foldl Scratch.enter scratch).path = (ofRoute route).path := by
  refine ⟨⟨fun same => ?_, fun same => same ▸ rfl⟩, fun scratch empty => enter_path route empty⟩
  apply pathText_inj plain also
  rw [← ofRoute_path plain, ← ofRoute_path also, same]

/-- Two indices in a row that have the same digits. -/
theorem path_identifies_digits :
    let route := [Step.field "rows", .element 1, .element 12]
    let other := [Step.field "rows", .element 11, .element 2]
    let scratch : Scratch := { serial := 0 }
    (∀ step ∈ route, step.Plain) ∧ (∀ step ∈ other, step.Plain) ∧ scratch.path = "" ∧
    (ofRoute route).path ≠ (ofRoute other).path ∧
    (route.foldl Scratch.enter scratch).path = (ofRoute route).path := by
  intro route other scratch
  have named : (Step.field "rows").Plain := by
    simp only [Plain]
    decide
  have plain : ∀ step ∈ route, step.Plain := by
    simp only [route, List.forall_mem_cons]
    exact ⟨named, trivial, trivial, by simp⟩
  have also : ∀ step ∈ other, step.Plain := by
    simp only [other, List.forall_mem_cons]
    exact ⟨named, trivial, trivial, by simp⟩
  obtain ⟨identifies, grown⟩ := path_identifies plain also
  have apart : route ≠ other := by decide
  exact ⟨plain, also, rfl, fun same => apart (identifies.mp same), grown scratch rfl⟩

end Location

end SchemaCheck

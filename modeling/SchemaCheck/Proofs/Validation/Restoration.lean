import SchemaCheck.Proofs.Validation.Descent
import SchemaCheck.Proofs.Validation.Visit

/-!
How a check leaves its buffer. However the check of a node ends, the path of the buffer is as it was
and errors have only been added, and which ones depends on nothing in the buffer but its path
(`checkNode_restores`). Every step down is left by a cut (`checkNode_cuts`). A cut outside the path
or into a character would end the check without a result, so none takes place (`Cuts.possible`).
-/

namespace SchemaCheck.Optimized

open Json (Value)

/-- In the course of some work the path of a buffer is cut back to a length in bytes. Work is made
of one thing after the other and of work at a longer path, and it is when this is left that a cut
takes place. Every way to put the work together counts, so that no cut is overlooked. -/
inductive Cuts : (Progress → Option Progress) → Progress → Scratch → Nat → Prop where
  | leave {enter : Scratch → Scratch} {work : Progress → Option Progress}
    {progress worked : Progress}
    (ran : work { progress with scratch := enter progress.scratch } = some worked) :
    Cuts (fun progress => progress.inside enter work) progress worked.scratch progress.scratch.mark
  | within {enter : Scratch → Scratch} {work : Progress → Option Progress} {progress : Progress}
    {buffer : Scratch} {mark : Nat}
    (cut : Cuts work { progress with scratch := enter progress.scratch } buffer mark) :
    Cuts (fun progress => progress.inside enter work) progress buffer mark
  | first {work next : Progress → Option Progress} {progress : Progress} {buffer : Scratch}
    {mark : Nat} (cut : Cuts work progress buffer mark) :
    Cuts (fun progress => work progress >>= next) progress buffer mark
  | later {work next : Progress → Option Progress} {progress worked : Progress} {buffer : Scratch}
    {mark : Nat} (ran : work progress = some worked) (cut : Cuts next worked buffer mark) :
    Cuts (fun progress => work progress >>= next) progress buffer mark

/-- Work that ends with a result has not met a cut that is impossible. -/
theorem Cuts.possible {work : Progress → Option Progress} {progress last : Progress}
    {buffer : Scratch} {mark : Nat} (cut : Cuts work progress buffer mark)
    (ends : work progress = some last) : (buffer.cut? mark).isSome := by
  induction cut generalizing last with
  | leave ran =>
    obtain ⟨worked, inner, _, left, _⟩ := Progress.inside_eq_some_iff.mp ends
    obtain rfl := Option.some.inj (ran.symm.trans inner)
    exact Option.isSome_of_eq_some left
  | within cut ih =>
    obtain ⟨worked, inner, _⟩ := Progress.inside_eq_some_iff.mp ends
    exact ih inner
  | first cut ih =>
    obtain ⟨worked, inner, _⟩ := Option.bind_eq_some_iff.mp ends
    exact ih inner
  | later ran cut ih =>
    obtain ⟨worked, inner, next⟩ := Option.bind_eq_some_iff.mp ends
    obtain rfl := Option.some.inj (ran.symm.trans inner)
    exact ih next

/-- At a path the work goes on to the path below, and from there the path is cut back. -/
def CutsBack (work : Progress → Option Progress) (path below : String) : Prop :=
  ∀ progress, progress.scratch.path = path →
    ∃ buffer, buffer.path = below ∧ Cuts work progress buffer path.utf8ByteSize

namespace CutsBack

variable {work next : Progress → Option Progress} {path below : String}
  {messages asked : List String}

theorem congr (back : CutsBack work path below)
    (same : ∀ progress, next progress = work progress) : CutsBack next path below := by
  rw [funext same]
  exact back

theorem first (back : CutsBack work path below) :
    CutsBack (fun progress => work progress >>= next) path below := by
  intro progress here
  obtain ⟨buffer, there, cut⟩ := back progress here
  exact ⟨buffer, there, cut.first⟩

theorem later (reports : Reports work path messages asked) (back : CutsBack next path below) :
    CutsBack (fun progress => work progress >>= next) path below := by
  intro progress here
  obtain ⟨buffer, there, cut⟩ := back (progress.after messages asked) here
  exact ⟨buffer, there, .later (reports progress here) cut⟩

theorem inside {enter : Scratch → Scratch} {suffix : String}
    (entered : ∀ scratch, scratch.path = path → enter scratch = scratch.extend suffix)
    (reports : Reports work (path ++ suffix) messages asked) :
    CutsBack (fun progress => progress.inside enter work) path (path ++ suffix) := by
  intro progress here
  have there : (enter progress.scratch).path = path ++ suffix := by
    rw [entered _ here, Scratch.extend_path, here]
  have ran := reports { progress with scratch := enter progress.scratch } there
  subst here
  refine ⟨_, ?_, .leave ran⟩
  exact there

end CutsBack

/-- The steps that a check takes down from a value: to a required field that is missing, to a
declared field that is there, and to an element when the elements have a node. -/
inductive Descends (node : Node) : Value → Step → Prop where
  | missing {fields : List (String × Value)} {name : String}
    (required : name ∈ node.rules.required) (absent : Fields.has fields name = false) :
    Descends node (.object fields) (.field name)
  | field {fields : List (String × Value)} {name : String} {part : Node} {value : Value}
    (declared : (name, part) ∈ node.properties) (present : Fields.get? fields name = some value) :
    Descends node (.object fields) (.field name)
  | element {values : List Value} {index : Nat} {part : Node} (shape : node.items = some part)
    (inside : index < values.length) : Descends node (.array values) (.element index)

section Parts

variable (fields : List (String × Value)) (location : Location) {work : Progress → Option Progress}
  {messages asked : List String}

theorem enterField_cutsBack (name : String)
    (reports : Reports work (location.field name).path messages asked) :
    CutsBack (fun progress => progress.inside (·.enterField name) work) location.path
      (location.field name).path := by
  rw [Location.field_path] at reports ⊢
  exact .inside (fun scratch here => by rw [Scratch.enterField_eq, here]) reports

theorem enterElement_cutsBack (index : Nat)
    (reports : Reports work (location.element index).path messages asked) :
    CutsBack (fun progress => progress.inside (·.enterElement index) work) location.path
      (location.element index).path := by
  rw [Location.element_path] at reports ⊢
  exact .inside (fun _ _ => rfl) reports

theorem checkRequired_cutsBack {required : List String} {name : String} (listed : name ∈ required)
    (absent : Fields.has fields name = false) :
    CutsBack (checkRequired fields required) location.path (location.field name).path := by
  induction required with
  | nil => cases listed
  | cons other rest ih =>
    cases present : Fields.has fields other with
    | true =>
      have different : name ≠ other := fun same => by simp [← same, absent] at present
      have behind : name ∈ rest := (List.mem_cons.mp listed).resolve_left different
      exact (ih behind).congr fun progress => by rw [checkRequired, if_pos present]
    | false =>
      have missing : Reports (fun progress => some (progress.report .missing))
          (location.field other).path [Violation.missing.message (location.field other).path] [] :=
        .violation .missing
      have split (progress : Progress) : checkRequired fields (other :: rest) progress =
          progress.inside (·.enterField other) (fun progress => some (progress.report .missing)) >>=
            checkRequired fields rest := by
        rw [checkRequired, if_neg (by simp [present])]
      cases listed with
      | head => exact (enterField_cutsBack location name missing).first.congr split
      | tail _ behind =>
        exact (CutsBack.later (enterField_reports location other missing) (ih behind)).congr split

theorem checkField_cutsBack {check : Value → Progress → Option Progress} {name : String}
    {value : Value} (present : Fields.get? fields name = some value)
    (reports : Reports (check value) (location.field name).path messages asked) :
    CutsBack (checkField check name fields) location.path (location.field name).path := by
  unfold checkField
  rw [present]
  exact enterField_cutsBack location name reports

variable (settings : ValidationSettings) (registry : Registry)

theorem checkProperties_cutsBack {properties : List (String × Node)} {name : String} {part : Node}
    {value : Value} (declared : (name, part) ∈ properties)
    (present : Fields.get? fields name = some value) :
    CutsBack (checkProperties settings registry properties location.depth fields) location.path
      (location.field name).path := by
  induction properties with
  | nil => cases declared
  | cons entry rest ih =>
    obtain ⟨other, node⟩ := entry
    have split (progress : Progress) :
        checkProperties settings registry ((other, node) :: rest) location.depth fields progress =
          checkField (checkNode settings registry node (location.depth + 1)) other fields progress
            >>= checkProperties settings registry rest location.depth fields := by
      rw [checkProperties]
    cases declared with
    | head =>
      have inner := checkNode_reports settings registry part (location.field name) value
      exact (checkField_cutsBack fields location present inner).first.congr split
    | tail _ behind =>
      have ran := checkField_reports fields location
        (checkNode settings registry node (location.depth + 1))
        (Reference.nodeFindings settings registry node)
        (nodeRequests settings node (location.depth + 1)) other
        fun value => checkNode_reports settings registry node (location.field other) value
      exact (CutsBack.later ran (ih behind)).congr split

theorem checkElements_cutsBack (node : Node) (start : Nat) {index : Nat} {values : List Value}
    (inside : index < values.length) :
    CutsBack (checkElements (checkNode settings registry node (location.depth + 1)) start values)
      location.path (location.element (start + index)).path := by
  induction values generalizing start index with
  | nil => cases inside
  | cons value rest ih =>
    have ran := checkNode_reports settings registry node (location.element start) value
    cases index with
    | zero => exact (enterElement_cutsBack location start ran).first
    | succ index =>
      have behind := ih (start + 1) (Nat.lt_of_succ_lt_succ inside)
      rw [show start + 1 + index = start + (index + 1) by omega] at behind
      exact .later (enterElement_reports location start ran) behind

theorem checkContent_cutsBack {node : Node} {content : Value} {step : Step}
    (descends : Descends node content step) :
    CutsBack (checkContent settings registry node location.depth content) location.path
      (location.step step).path := by
  cases descends with
  | missing required absent => exact (checkRequired_cutsBack _ location required absent).first
  | field declared present =>
    exact .later (checkRequired_reports _ location node.rules)
      (checkProperties_cutsBack _ location settings registry declared present)
  | @element values index part shape inside =>
    have back := checkElements_cutsBack location settings registry part 0 inside
    rw [Nat.zero_add] at back
    exact back.congr fun progress => by rw [checkContent, shape, checkItems]

end Parts

/-- Each step down from the content of a node is left by a cut back to the path of the node. -/
theorem checkNode_cuts (settings : ValidationSettings) (registry : Registry) {node : Node}
    (location : Location) {value content : Value} {kind : Kind} {step : Step}
    (shallow : ¬settings.maxDepth < location.depth) (expected : node.rules.kind = some kind)
    (adapted : settings.adapt? kind value = some content) (descends : Descends node content step) :
    CutsBack (checkNode settings registry node location.depth value) location.path
      (location.step step).path :=
  (checkContent_cutsBack location settings registry descends).first.congr
    (checkNode_content shallow expected adapted)

/-- Whatever the buffer and the cache hold, the check of a node ends. The path is then as it was,
and behind the errors from before stand some that depend on nothing in the buffer but its path. Each
cut on the way is to a place of the path: inside it, and between two characters. -/
theorem checkNode_restores (settings : ValidationSettings) (registry : Registry) (node : Node)
    (depth : Nat) (value : Value) (path : String) :
    ∃ added : List String, ∀ (serial : Nat) (errors : List String) (cache : PatternCache),
      (∃ next, checkNode settings registry node depth value ⟨⟨serial, errors, path⟩, cache⟩ =
        some ⟨⟨serial, errors ++ added, path⟩, next⟩) ∧
      ∀ buffer mark, Cuts (checkNode settings registry node depth value)
        ⟨⟨serial, errors, path⟩, cache⟩ buffer mark →
          (String.Pos.Raw.mk mark).IsValid buffer.path := by
  have reports := checkNode_reports settings registry node ⟨path, depth⟩ value
  refine ⟨(Reference.nodeFindings settings registry node ⟨path, depth⟩ value).map Finding.message,
    fun serial errors cache => ?_⟩
  have ends := reports ⟨⟨serial, errors, path⟩, cache⟩ rfl
  exact ⟨⟨_, ends⟩, fun buffer mark cut => Scratch.cut?_isSome_iff.mp (cut.possible ends)⟩

/-- A field that is missing and one of another kind, behind a path whose letters take two bytes. -/
theorem checkNode_restores_names :
    let node : Node :=
      { rules := { kind := some .object, required := ["größe"] }
        properties := [("имя", .ofKind .string)] }
    let value := Value.object [("имя", .bool true)]
    let progress : Progress := ⟨⟨0, ["заказ is late"], "заказ[2]"⟩, {}⟩
    (checkNode {} .standard node 3 value progress).map (·.scratch) = some ⟨0, ["заказ is late",
      "заказ[2].größe is required", "заказ[2].имя must be a string"], "заказ[2]"⟩ ∧
    ∃ buffer, buffer.path = "заказ[2].имя" ∧
      Cuts (checkNode {} .standard node 3 value) progress buffer 13 ∧
      (String.Pos.Raw.mk 13).IsValid buffer.path := by
  intro node value progress
  have adapted : ValidationSettings.adapt? {} .object value = some value := rfl
  have descends : Descends node value (.field "имя") := .field List.mem_cons_self rfl
  obtain ⟨buffer, there, cut⟩ :=
    checkNode_cuts {} .standard ⟨"заказ[2]", 3⟩ (by decide) rfl adapted descends progress rfl
  obtain ⟨added, restores⟩ := checkNode_restores {} .standard node 3 value "заказ[2]"
  obtain ⟨_, valid⟩ := restores 0 ["заказ is late"] {}
  exact ⟨by decide +kernel, buffer, there, cut, valid buffer 13 cut⟩

end SchemaCheck.Optimized

import SchemaCheck.Proofs.Validation.Requests
import SchemaCheck.Proofs.Validation.Scratch

/-!
The two ways to descend through a value find the same. Work on the one buffer reports, at the path
of a location, the messages of exactly those findings that the plain descent lists there, in the
same order, and asks for the patterns of the value (`checkNode_reports`).
-/

namespace SchemaCheck.Optimized

open Json (Value)
open Reference

def messagesAt (path : String) (violations : List Violation) : List String :=
  violations.map (·.message path)

theorem messagesAt_findings (path : String) (violations : List Violation) :
    (violations.map (Finding.mk path)).map Finding.message = messagesAt path violations := by
  rw [List.map_map]
  rfl

theorem messagesAt_append (path : String) (first second : List Violation) :
    messagesAt path (first ++ second) = messagesAt path first ++ messagesAt path second :=
  List.map_append

theorem request_eq (progress : Progress) (text : String) :
    progress.request text = (Pattern.ofText? text, progress.after [] [text]) := by
  simp only [Progress.request, PatternCache.request_fst, Progress.after, Scratch.pushAll_nil]
  rfl

theorem checkLength_eq (rules : Rules) (text : String) (progress : Progress) :
    checkLength rules text progress =
      progress.after (messagesAt progress.scratch.path (rules.lengthViolations text)) [] := by
  unfold checkLength Rules.lengthViolations messagesAt
  cases rules.minLength <;> cases rules.maxLength <;>
    simp only [Progress.reportIf_eq, Progress.after_path, Progress.after_after] <;>
    grind [Progress.after_nil]

theorem checkAllowed_eq (rules : Rules) (text : String) (progress : Progress) :
    checkAllowed rules text progress =
      progress.after (messagesAt progress.scratch.path (rules.allowedViolations text)) [] := by
  unfold checkAllowed Rules.allowedViolations messagesAt
  rw [Progress.reportIf_eq]
  cases rules.allowed.isEmpty <;> cases rules.allowed.contains text <;> rfl

theorem checkFormat_eq (rules : Rules) (text : String) (progress : Progress) :
    checkFormat rules text progress =
      progress.after (messagesAt progress.scratch.path (rules.formatViolations text))
        rules.formatRequests := by
  cases named : rules.format with
  | none =>
    simp only [checkFormat, Rules.formatViolations, Rules.formatRequests, named]
    exact (Progress.after_nil progress).symm
  | some name =>
    cases known : TextFormat.ofName? name with
    | none =>
      simp only [checkFormat, Rules.formatViolations, Rules.formatRequests, named, known]
      exact Progress.report_eq progress _
    | some format =>
      simp only [checkFormat, Rules.formatViolations, Rules.formatRequests, named, known,
        request_eq, Progress.reportIf_eq, Progress.after_path, Progress.after_after,
        TextFormat.accepts]
      grind [messagesAt]

/-- A string is checked as the rules say, and the check goes on under the same condition. -/
theorem checkText_eq (rules : Rules) (text : String) (progress : Progress) :
    checkText rules text progress =
      ((rules.textViolations text).2,
        progress.after (messagesAt progress.scratch.path (rules.textViolations text).1)
          rules.textRequests) := by
  unfold checkText Rules.textViolations Rules.textRequests Pattern.compiles
  cases rules.pattern with
  | none =>
    simp only [checkFormat_eq, checkAllowed_eq, checkLength_eq, Progress.after_path,
      Progress.after_after, messagesAt_append, List.nil_append]
    rw [List.append_assoc]
  | some source =>
    cases compiled : Pattern.ofText? source with
    | none =>
      simp only [request_eq, compiled, checkLength_eq, Progress.report_eq, Progress.after_path,
        Progress.after_after, messagesAt_append, List.append_nil, List.nil_append]
      rfl
    | some pattern =>
      simp only [request_eq, compiled, checkFormat_eq, checkAllowed_eq, checkLength_eq,
        Progress.reportIf_eq, Progress.after_path, Progress.after_after]
      cases pattern.isMatch text <;>
        simp [messagesAt, List.append_assoc]

theorem checkNumber_eq (rules : Rules) (x : Binary64) (progress : Progress) :
    checkNumber rules x progress =
      progress.after (messagesAt progress.scratch.path (rules.numberViolations x)) [] := by
  unfold checkNumber Rules.numberViolations messagesAt
  cases rules.minimum <;> cases rules.maximum <;>
    simp only [Progress.reportIf_eq, Progress.after_path, Progress.after_after] <;>
    grind [Progress.after_nil]

theorem checkCustom_eq (registry : Registry) (rules : Rules) (value : Value)
    (progress : Progress) : checkCustom registry rules value progress =
      progress.after (messagesAt progress.scratch.path
        (rules.customViolations registry progress.scratch.path value)) [] := by
  cases named : rules.customValidator with
  | none =>
    simp only [checkCustom, Rules.customViolations, named]
    exact (Progress.after_nil progress).symm
  | some name =>
    cases known : registry.lookup name with
    | none =>
      simp only [checkCustom, Rules.customViolations, named, known]
      exact Progress.report_eq progress _
    | some check =>
      have words : Violation.message progress.scratch.path ∘ Violation.custom = id := rfl
      simp only [checkCustom, Rules.customViolations, named, known, messagesAt, List.map_map,
        words, List.map_id]
      rfl

section Parts

variable (fields : List (String × Value)) (location : Location)

theorem enterField_reports {work : Progress → Option Progress} {messages asked : List String}
    (name : String) (reports : Reports work (location.field name).path messages asked) :
    Reports (fun progress => progress.inside (·.enterField name) work) location.path messages
      asked := by
  rw [Location.field_path] at reports
  exact reports.inside fun scratch here => by rw [Scratch.enterField_eq, here]

theorem enterElement_reports {work : Progress → Option Progress} {messages asked : List String}
    (index : Nat) (reports : Reports work (location.element index).path messages asked) :
    Reports (fun progress => progress.inside (·.enterElement index) work) location.path
      messages asked := by
  rw [Location.element_path] at reports
  exact reports.inside fun _ _ => rfl

theorem checkRequired_reports (rules : Rules) : Reports (checkRequired fields rules.required)
    location.path ((rules.missingFindings location fields).map Finding.message) [] := by
  unfold Rules.missingFindings
  induction rules.required with
  | nil => exact Reports.nothing
  | cons name rest ih =>
    cases present : Fields.has fields name with
    | true => simpa only [checkRequired, present, if_true, List.filter_cons, Bool.not_true,
        Bool.false_eq_true, if_false] using ih
    | false =>
      have missing := enterField_reports location name (Reports.violation .missing)
      simp only [checkRequired, present, Bool.false_eq_true, if_false, List.filter_cons,
        Bool.not_false, if_true, List.map_cons]
      exact missing.bind ih

theorem checkElements_reports (check : Value → Progress → Option Progress)
    (find : Location → Value → List Finding) (requests : Value → List String)
    (same : ∀ index value, Reports (check value) (location.element index).path
      ((find (location.element index) value).map Finding.message) (requests value))
    (index : Nat) (values : List Value) : Reports (checkElements check index values)
      location.path ((elementFindings find location index values).map Finding.message)
      (values.flatMap requests) := by
  induction values generalizing index with
  | nil => exact Reports.nothing
  | cons value rest ih =>
    have here := enterElement_reports location index (same index value)
    rw [elementFindings, List.map_append, List.flatMap_cons]
    exact here.bind (ih (index + 1))

theorem checkField_reports (check : Value → Progress → Option Progress)
    (find : Location → Value → List Finding) (requests : Value → List String) (name : String)
    (same : ∀ value, Reports (check value) (location.field name).path
      ((find (location.field name) value).map Finding.message) (requests value)) :
    Reports (checkField check name fields) location.path
      ((fieldFindings find location name fields).map Finding.message)
      (fieldRequests requests name fields) := by
  unfold checkField fieldFindings fieldRequests
  cases Fields.get? fields name with
  | none => exact Reports.nothing
  | some value => exact enterField_reports location name (same value)

end Parts

variable (settings : ValidationSettings) (registry : Registry)

/-- What the check of a node on the buffer should come to, wherever the node stands. -/
def Agrees (node : Node) : Prop := ∀ (location : Location) (value : Value),
  Reports (checkNode settings registry node location.depth value) location.path
    ((nodeFindings settings registry node location value).map Finding.message)
    (nodeRequests settings node location.depth value)

variable {settings registry}

theorem checkProperties_reports {properties : List (String × Node)}
    (agree : ∀ entry ∈ properties, Agrees settings registry entry.2) (location : Location)
    (fields : List (String × Value)) :
    Reports (checkProperties settings registry properties location.depth fields) location.path
      ((propertyFindings settings registry properties location fields).map Finding.message)
      (propertyRequests settings properties (location.depth + 1) fields) := by
  induction properties with
  | nil =>
    simp only [propertyFindings, propertyRequests, List.map_nil]
    exact Reports.nothing.congr fun progress => by rw [checkProperties]
  | cons entry rest ih =>
    obtain ⟨name, node⟩ := entry
    have here := checkField_reports fields location
      (checkNode settings registry node (location.depth + 1)) (nodeFindings settings registry node)
      (nodeRequests settings node (location.depth + 1)) name
      fun value => agree _ List.mem_cons_self (location.field name) value
    have later := ih fun entry member => agree entry (List.mem_cons_of_mem _ member)
    simp only [propertyFindings, propertyRequests, List.map_append]
    exact (here.bind later).congr fun progress => by rw [checkProperties]

theorem checkItems_reports {items : Option Node}
    (agree : ∀ node ∈ items, Agrees settings registry node) (location : Location)
    (values : List Value) :
    Reports (checkItems settings registry items location.depth values) location.path
      ((itemFindings settings registry items location values).map Finding.message)
      (itemRequests settings items (location.depth + 1) values) := by
  cases items with
  | none =>
    simp only [itemFindings, itemRequests, List.map_nil]
    exact Reports.nothing.congr fun progress => by rw [checkItems]
  | some node =>
    have here := checkElements_reports location
      (checkNode settings registry node (location.depth + 1)) (nodeFindings settings registry node)
      (nodeRequests settings node (location.depth + 1))
      (fun index value => agree node rfl (location.element index) value) 0 values
    simp only [itemFindings, itemRequests]
    exact here.congr fun progress => by rw [checkItems]

variable (registry) in
theorem checkCustom_reports (rules : Rules) (location : Location) (value : Value) :
    Reports (fun progress => some (checkCustom registry rules value progress)) location.path
      (messagesAt location.path (rules.customViolations registry location.path value)) [] :=
  fun progress here => by simp only [checkCustom_eq, here]

def checkContent (settings : ValidationSettings) (registry : Registry) (node : Node)
    (depth : Nat) : Value → Progress → Option Progress
  | .object fields, progress => do
    let progress ← checkRequired fields node.rules.required progress
    checkProperties settings registry node.properties depth fields progress
  | .array values, progress => checkItems settings registry node.items depth values progress
  | .string text, progress => some (checkText node.rules text progress).2
  | .number n, progress => some (checkNumber node.rules n.toBinary64 progress)
  | _, progress => some progress

theorem checkNode_content {node : Node} {depth : Nat} {value content : Value} {kind : Kind}
    (shallow : ¬settings.maxDepth < depth) (expected : node.rules.kind = some kind)
    (adapted : settings.adapt? kind value = some content) (progress : Progress) :
    checkNode settings registry node depth value progress =
      checkContent settings registry node depth content progress >>= fun progress =>
        some (if node.rules.proceeds content then checkCustom registry node.rules content progress
          else progress) := by
  obtain ⟨rules, items, properties⟩ := node
  rw [checkNode, if_neg shallow, expected]
  simp only [adapted]
  cases content with
  | object fields => simp only [checkContent, bind_assoc]; rfl
  | array values => rfl
  | string text =>
    simp only [checkText_eq, checkContent, Rules.proceeds, Option.bind_eq_bind, Option.bind_some]
    by_cases goesOn : (rules.textViolations text).2 = true
    · simp only [goesOn, if_true]
    · simp only [goesOn, Bool.false_eq_true, if_false]
  | number n => rfl
  | bool b => rfl
  | null => rfl

theorem checkContent_reports (node : Node)
    (ofItems : ∀ item ∈ node.items, Agrees settings registry item)
    (ofProperties : ∀ entry ∈ node.properties, Agrees settings registry entry.2)
    (location : Location) (content : Value) :
    Reports (checkContent settings registry node location.depth content) location.path
      ((contentFindings settings registry node location content).map Finding.message)
      (contentRequests settings node location.depth content) := by
  cases content with
  | object fields =>
    simp only [contentFindings, List.map_append]
    exact (checkRequired_reports fields location node.rules).bind
      (checkProperties_reports ofProperties location fields)
  | array values => exact checkItems_reports ofItems location values
  | string text =>
    simp only [contentFindings, messagesAt_findings]
    exact fun progress here => by simp only [checkContent, checkText_eq, here, contentRequests]
  | number n =>
    simp only [contentFindings, messagesAt_findings]
    exact fun progress here => by simp only [checkContent, checkNumber_eq, here, contentRequests]
  | bool b => exact Reports.nothing
  | null => exact Reports.nothing

variable (settings registry) in
/-- The check of a node on the buffer finds what the plain descent finds, and asks for the patterns
of the value. -/
theorem checkNode_reports (node : Node) : Agrees settings registry node := by
  induction node using Node.induction with
  | step rules items properties ofItems ofProperties =>
    intro location value
    have custom := checkCustom_reports registry rules location
    by_cases deep : settings.maxDepth < location.depth
    · rw [nodeFindings_deep deep, nodeRequests_deep deep]
      exact (Reports.violation _).congr fun progress => by rw [checkNode, if_pos deep]
    cases expected : rules.kind with
    | none =>
      rw [nodeFindings_untyped deep expected, nodeRequests_untyped expected, Rules.customFindings,
        messagesAt_findings]
      exact (custom value).congr fun progress => by rw [checkNode, if_neg deep, expected]
    | some kind =>
      cases adapted : settings.adapt? kind value with
      | none =>
        rw [nodeFindings_mismatch deep expected adapted, nodeRequests_mismatch expected adapted]
        exact (Reports.violation _).congr fun progress => by
          rw [checkNode, if_neg deep, expected]
          simp only [adapted]
      | some content =>
        have inner := checkContent_reports ⟨rules, items, properties⟩ ofItems ofProperties location
          content
        rw [nodeFindings_content deep expected adapted, List.map_append,
          nodeRequests_content deep expected adapted, ← List.append_nil (contentRequests _ _ _ _)]
        refine (inner.bind ?_).congr (checkNode_content deep expected adapted)
        cases rules.proceeds content with
        | true =>
          simp only [if_true, Rules.customFindings, messagesAt_findings]
          exact custom content
        | false =>
          simp only [Bool.false_eq_true, if_false, List.map_nil]
          exact Reports.nothing

end SchemaCheck.Optimized

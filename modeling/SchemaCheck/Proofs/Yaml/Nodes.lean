import Mathlib.Data.List.Forall2
import SchemaCheck.Proofs.Yaml.Tokens
import SchemaCheck.Yaml.Node.Document

/-!
Nodes from tokens. The tokens of a text, of a list or of a mapping are read as a node that stands
for a document, whatever follows them (`Reading.ReadsNode`); the tokens that a node takes, four for
each step, bound the descent. A text whose tokens are those of one node has the value of its
document (`Content.value?_ofText`).
-/

namespace SchemaCheck.Yaml

/-- Whatever else the text holds, the node stands for a document; so many collections nest in it. -/
def Node.Means (levels : Nat) (node : Node) (d : Document) : Prop :=
  ∀ (content : Content) (depth : Nat), levels ≤ depth → content.documentOf true depth node = pure d

namespace Content

variable {content : Content} {depth : Nat} {mark : Mark}

/-- The document of a scalar that has a meaning. -/
def scalarDocument : Except Scalar.Mismatch Document → Following Document
  | .ok (.integer n) => if Scalar.isWord n then pure (.integer n) else failure
  | .ok d => pure d
  | .error _ => failure

theorem documentOf_scalar {style : ScalarStyle} {text : String} {d : Document}
    (means : Scalar.meaning none style text = .ok d) (noNumber : ∀ n, d ≠ .integer n) :
    content.documentOf true depth (.scalar mark none style text) = pure d := by
  have known : content.documentOf true depth (.scalar mark none style text) =
      scalarDocument (Scalar.meaning none style text) := by
    delta documentOf
    cases depth <;> rfl
  rw [known, means]
  cases d
  case integer n => exact absurd rfl (noNumber n)
  all_goals rfl

theorem documentOf_sequence {items : List Node} :
    content.documentOf true (depth + 1) (.sequence mark none items) =
      (do return .sequence (← items.mapM (content.documentOf true depth))) := by
  delta documentOf
  rfl

theorem documentOf_mapping {entries : List (Node × Node)} :
    content.documentOf true (depth + 1) (.mapping mark none entries) = (do
      let entries ← entries.mapM fun (key, value) => do
        let key ← content.rawKey key
        return (key, ← content.documentOf true depth value)
      return .mapping entries) := by
  delta documentOf
  rfl

theorem mapM_eq {α β γ : Type} {read : α → Following β} {value : γ → β} {parts : List α}
    {items : List γ}
    (each : List.Forall₂ (fun part item => read part = pure (value item)) parts items) :
    parts.mapM read = pure (items.map value) := by
  induction each with
  | nil => rfl
  | cons first _ ih => rw [List.mapM_cons, first, ih]; rfl

end Content

section Fields

/-- A key with the tokens of its value, and what the value stands for. -/
structure Field where
  name : String
  content : List Token.Kind
  document : Document

def Field.kinds (field : Field) : List Token.Kind := fieldKinds field.name field.content

def mappingKinds (fields : List Field) : List Token.Kind :=
  .blockMappingStart :: (fields.flatMap Field.kinds ++ [.blockEnd])

def Field.IsEntry (field : Field) (levels : Nat) (entry : Node × Node) : Prop :=
  (∃ mark, entry.1 = .scalar mark none .plain field.name) ∧ entry.2.Means levels field.document

theorem Field.IsEntry.read {field : Field} {levels depth : Nat} {entry : Node × Node}
    (known : field.IsEntry levels entry) (deep : levels ≤ depth) {content : Content} :
    (do
      let key ← content.rawKey entry.1
      return (key, ← content.documentOf true depth entry.2) : Following (Document × Document)) =
        pure (.text field.name, field.document) := by
  obtain ⟨⟨mark, key⟩, means⟩ := known
  rw [key, means content depth deep]
  rfl

end Fields

namespace NodeReader

def kinds (r : NodeReader) : List Token.Kind := r.tokens.map (·.kind)

def past (count : Nat) (r : NodeReader) : NodeReader := { r with tokens := r.tokens.drop count }

variable {r : NodeReader} {kind : Token.Kind} {more : List Token.Kind} {m n : Nat}

@[simp]
theorem past_past : (r.past m).past n = r.past (m + n) := by simp [past, List.drop_drop]

theorem kinds_past {kinds : List Token.Kind} (split : r.kinds = kinds ++ more) :
    (r.past kinds.length).kinds = more := by
  rw [NodeReader.kinds] at split ⊢
  rw [past, List.map_drop, split, List.drop_left]

theorem kinds_behind (ahead : r.kinds = kind :: more) : (r.past 1).kinds = more :=
  (kinds_past ahead : (r.past [kind].length).kinds = more)

theorem next_token (ahead : r.kinds = kind :: more) :
    ∃ start stop rest, r.tokens = ⟨kind, start, stop⟩ :: rest := by
  obtain ⟨⟨_, start, stop⟩, rest, tokens, rfl, _⟩ := List.map_eq_cons_iff.mp ahead
  exact ⟨start, stop, rest, tokens⟩

end NodeReader

namespace Reading

open NodeReader

variable {r : NodeReader} {kind : Token.Kind} {more : List Token.Kind} {token : Token}
  {rest : List Token}

theorem bind_eq {α β : Type} {read : Reading α} {later : α → Reading β} {a : α} {s : NodeReader}
    (first : read r = (a, s)) : (read >>= later) r = later a s := by
  simp [bind, StateT.bind, first]

theorem get_eq : (get : Reading NodeReader) r = (r, r) := rfl

theorem next?_eq (ahead : r.tokens = token :: rest) : next? r = (some token, r) := by
  rw [next?, bind_eq get_eq, ahead]
  rfl

theorem pass_eq : pass r = ((), r.past 1) := by
  rw [past, List.drop_one]
  rfl

def startsNode (indentless : Bool) : Token.Kind → Bool
  | .scalar _ _ | .flowSequenceStart | .blockMappingStart => true
  | .blockEntry => indentless
  | _ => false

theorem properties_eq {indentless : Bool} (ahead : r.tokens = token :: rest)
    (starts : startsNode indentless token.kind = true) : properties r = ({}, r) := by
  have none : addProperty {} r = ({}, r) := by
    rw [addProperty, bind_eq (next?_eq ahead)]
    dsimp only
    generalize token.kind = kind at starts
    cases kind
    case anchor | tag => exact nomatch starts
    all_goals rfl
  rw [properties, bind_eq none, none]

/-- How a node is read that is no reference. -/
def properNode (fuel : Nat) (indentless : Bool) (start : Mark) : Reading Node := do
  let given ← properties
  match ← next? with
  | none => return .cut
  | some token =>
    let tag ← fullTag start given.tag
    if (← get).problem.isSome then return .cut
    else
      let bare := given.anchor.isNone && tag.isNone
      anchoring given.anchor (body fuel true indentless bare start tag token)

theorem properNode_eq {indentless : Bool} (calm : r.problem = none)
    (ahead : r.tokens = token :: rest) (starts : startsNode indentless token.kind = true)
    (fuel : Nat) (start : Mark) :
    properNode fuel indentless start r = body fuel true indentless true start none token r := by
  have noTag : fullTag start none r = (none, r) := rfl
  rw [properNode, bind_eq (properties_eq ahead starts), bind_eq (next?_eq ahead)]
  dsimp only
  rw [bind_eq noTag, bind_eq get_eq, calm]
  rfl

theorem node_eq {indentless : Bool} (calm : r.problem = none) (ahead : r.tokens = token :: rest)
    (starts : startsNode indentless token.kind = true) (fuel : Nat) :
    node (fuel + 1) true indentless r =
      body fuel true indentless true token.start none token r := by
  have known := properNode_eq calm ahead starts fuel token.start
  rw [node, bind_eq (next?_eq ahead)]
  dsimp only
  generalize token.kind = kind at starts
  cases kind
  case anchorReference => exact nomatch starts
  all_goals exact known

/-- The tokens are read as a node that stands for a document. A list that is not indented takes
all the dashes that follow. -/
structure ReadsNode (indentless : Bool) (kinds : List Token.Kind) (levels : Nat) (d : Document) :
    Prop where
  starts : ∃ kind ∈ kinds.head?, startsNode indentless kind = true
  read : ∀ fuel (r : NodeReader) more, 4 * kinds.length ≤ fuel → r.problem = none →
    r.kinds = kinds ++ more → (indentless = true → ∃ kind ∈ more.head?, kind ≠ .blockEntry) →
      ∃ node, Reading.node fuel true indentless r = (node, r.past kinds.length) ∧
        node.Means levels d

theorem ReadsNode.mono {indentless : Bool} {kinds : List Token.Kind} {levels more : Nat}
    {d : Document} (reads : ReadsNode indentless kinds levels d) (le : levels ≤ more) :
    ReadsNode indentless kinds more d where
  starts := reads.starts
  read fuel r behind enough calm ahead outside := by
    obtain ⟨node, read, means⟩ := reads.read fuel r behind enough calm ahead outside
    exact ⟨node, read, fun content depth deep => means content depth (le.trans deep)⟩

section Scalars

variable {indentless : Bool} {text : String} {style : ScalarStyle}

theorem node_scalar (ahead : r.kinds = .scalar text style :: more) (calm : r.problem = none)
    (fuel : Nat) :
    ∃ mark, node (fuel + 2) true indentless r = (.scalar mark none style text, r.past 1) := by
  obtain ⟨start, stop, rest, tokens⟩ := next_token ahead
  refine ⟨start, ?_⟩
  have known : body (fuel + 1) true indentless true start none ⟨.scalar text style, start, stop⟩ r =
      (do pass; return .scalar start none style text : Reading Node) r := by
    unfold body
    cases indentless <;> rfl
  rw [node_eq calm tokens rfl, known, bind_eq pass_eq]
  rfl

theorem readsNode_scalar {d : Document} (means : Scalar.meaning none style text = .ok d)
    (noNumber : ∀ n, d ≠ .integer n) : ReadsNode indentless [.scalar text style] 0 d := by
  refine ⟨⟨_, rfl, rfl⟩, fun fuel r more enough calm ahead _ => ?_⟩
  obtain ⟨fuel, rfl⟩ : ∃ n, fuel = n + 2 := ⟨fuel - 2, by simp at enough; omega⟩
  obtain ⟨mark, read⟩ := node_scalar ahead calm fuel
  exact ⟨_, read, fun content depth _ => Content.documentOf_scalar means noNumber⟩

theorem plain_text {s t : String} (means : Scalar.plain s = .text t) : t = s := by
  unfold Scalar.plain at means
  grind

theorem readsNode_text (s : String) : ReadsNode indentless [textKind s] 0 (.text s) := by
  refine readsNode_scalar ?_ nofun
  cases written : Writing.ofText s with
  | plain =>
    have clear := (Writing.ofText_plain written).1
    have means : Scalar.plain s = .text s := by
      rw [Writing.isMistakable] at clear
      split at clear
      next t means => rw [means, plain_text means]
      next => exact nomatch clear
    exact congrArg Except.ok means
  | single | double | literal => rfl

theorem readsNode_flag (b : Bool) : ReadsNode indentless [flagKind b] 0 (.bool b) :=
  readsNode_scalar (by cases b <;> rfl) nofun

end Scalars

section Parts

variable {indentless : Bool} {kinds : List Token.Kind} {levels : Nat} {d : Document}

theorem part_eq {ends : List Token.Kind} {mark : Option Mark} (ahead : r.tokens = token :: rest)
    (other : ends.contains token.kind = false) (fuel : Nat) :
    part (fuel + 1) true indentless ends mark r = node fuel true indentless r := by
  rw [part, bind_eq (next?_eq ahead)]
  dsimp only
  rw [other]
  rfl

theorem ReadsNode.first_token (reads : ReadsNode indentless kinds levels d)
    (ahead : r.kinds = kinds ++ more) :
    ∃ token rest, r.tokens = token :: rest ∧ startsNode indentless token.kind = true := by
  obtain ⟨kind, first, starts⟩ := reads.starts
  have known := List.cons_head?_tail (List.mem_head?_append_of_mem_head? (t := more) first)
  obtain ⟨start, stop, rest, tokens⟩ := next_token (ahead.trans known.symm)
  exact ⟨_, rest, tokens, starts⟩

/-- A part of a collection is read as a node is, as no node starts with what ends the part. -/
theorem ReadsNode.part (reads : ReadsNode indentless kinds levels d) {ends : List Token.Kind}
    {fuel : Nat} (other : ∀ kind, startsNode indentless kind = true → ends.contains kind = false)
    (enough : 4 * kinds.length < fuel) (ahead : r.kinds = kinds ++ more) (calm : r.problem = none)
    (outside : indentless = true → ∃ kind ∈ more.head?, kind ≠ .blockEntry) :
    ∃ node, (∀ mark, Reading.part fuel true indentless ends mark r =
      (node, r.past kinds.length)) ∧ node.Means levels d := by
  obtain ⟨token, rest, tokens, starts⟩ := reads.first_token ahead
  obtain ⟨fuel, rfl⟩ : ∃ n, fuel = n + 1 := ⟨fuel - 1, by omega⟩
  obtain ⟨node, read, means⟩ := reads.read fuel r more (by omega) calm ahead outside
  exact ⟨node, fun _ => (part_eq tokens (other token.kind starts) fuel).trans read, means⟩

theorem startsNode_item (kind : Token.Kind) (starts : startsNode false kind = true) :
    [Token.Kind.blockEntry, .key, .value, .blockEnd].contains kind = false := by
  cases kind
  case scalar | flowSequenceStart | blockMappingStart => rfl
  all_goals exact nomatch starts

theorem startsNode_field (kind : Token.Kind) (starts : startsNode true kind = true) :
    [Token.Kind.key, .value, .blockEnd].contains kind = false := by
  cases kind
  case scalar | flowSequenceStart | blockMappingStart | blockEntry => rfl
  all_goals exact nomatch starts

end Parts

section Lists

theorem readsNode_brackets {indentless : Bool} (levels : Nat) :
    ReadsNode indentless [.flowSequenceStart, .flowSequenceEnd] (levels + 1) (.sequence []) := by
  refine ⟨⟨_, rfl, rfl⟩, fun fuel r more enough calm ahead _ => ?_⟩
  obtain ⟨fuel, rfl⟩ : ∃ n, fuel = n + 3 := ⟨fuel - 3, by simp at enough; omega⟩
  obtain ⟨start, stop, rest, tokens⟩ := next_token ahead
  have behind : (r.past 1).kinds = .flowSequenceEnd :: more := kinds_behind ahead
  obtain ⟨start', stop', rest', tokens'⟩ := next_token behind
  have closed : flowPart? true .flowSequenceEnd "did not find expected ',' or ']'"
      ("while parsing a flow sequence", start) (r.past 1) = (some none, r.past 2) := by
    rw [flowPart?, bind_eq (next?_eq tokens')]
    dsimp only
    rw [if_pos rfl, bind_eq pass_eq, past_past]
    rfl
  have items : flowItems (fuel + 1) true start (r.past 1) = ([], r.past 2) := by
    rw [flowItems, bind_eq closed]
    rfl
  have known : body (fuel + 2) true indentless true start none ⟨.flowSequenceStart, start, stop⟩ r =
      (do pass; return .sequence start none (← flowItems (fuel + 1) true start) :
        Reading Node) r := by
    unfold body
    cases indentless <;> rfl
  refine ⟨.sequence start none [], ?_, fun content depth deep => ?_⟩
  · rw [node_eq calm tokens rfl, known, bind_eq pass_eq, bind_eq items]
    rfl
  · obtain ⟨depth, rfl⟩ : ∃ n, depth = n + 1 := ⟨depth - 1, by omega⟩
    rw [Content.documentOf_sequence]
    rfl

section Items

variable {α : Type} {itemKinds : α → List Token.Kind} {document : α → Document} {levels : Nat}

/-- The dashes of a list that is not indented, up to the first token that is none. -/
theorem indentlessItems_read
    (reads : ∀ item, ReadsNode false (itemKinds item) levels (document item)) (items : List α)
    {fuel : Nat} {r : NodeReader} {kinds : List Token.Kind}
    (known : kinds = items.flatMap fun item => .blockEntry :: itemKinds item)
    (alive : 1 ≤ fuel) (enough : 4 * kinds.length ≤ fuel + 2)
    (ahead : r.kinds = kinds ++ more) (calm : r.problem = none)
    (outside : ∃ kind ∈ more.head?, kind ≠ .blockEntry) :
    ∃ nodes, indentlessItems fuel r = (nodes, r.past kinds.length) ∧
      List.Forall₂ (fun node item => node.Means levels (document item)) nodes items := by
  induction items generalizing fuel r kinds with
  | nil =>
    obtain rfl : kinds = [] := known
    obtain ⟨kind, first, other⟩ := outside
    obtain ⟨fuel, rfl⟩ := Nat.exists_eq_add_of_le' alive
    obtain ⟨start, stop, rest, tokens⟩ :=
      next_token (ahead.trans (List.cons_head?_tail first).symm)
    refine ⟨[], ?_, .nil⟩
    rw [indentlessItems, bind_eq (next?_eq tokens)]
    dsimp only
    cases kind
    case blockEntry => exact absurd rfl other
    all_goals rfl
  | cons item items ih =>
    obtain ⟨later, split⟩ :
        ∃ later, later = items.flatMap fun item => .blockEntry :: itemKinds item := ⟨_, rfl⟩
    obtain rfl : kinds = .blockEntry :: (itemKinds item ++ later) := by
      rw [known, split, List.flatMap_cons, List.cons_append]
    -- An item has two tokens at least, and reading on behind it takes one step.
    rw [List.length_cons, List.length_append] at enough
    obtain ⟨fuel, rfl⟩ := Nat.exists_eq_add_of_le' alive
    obtain ⟨start, stop, rest, tokens⟩ := next_token ahead
    have behind : (r.past 1).kinds = itemKinds item ++ (later ++ more) := by
      rw [← List.append_assoc]
      exact kinds_behind ahead
    obtain ⟨node, read, means⟩ :=
      (reads item).part startsNode_item (by omega : _ < fuel) behind calm nofun
    obtain ⟨nodes, others, each⟩ :=
      ih split (by omega : 1 ≤ fuel) (by omega) (kinds_past behind) calm
    refine ⟨node :: nodes, ?_, .cons means each⟩
    rw [indentlessItems, bind_eq (next?_eq tokens)]
    dsimp only
    rw [bind_eq pass_eq, bind_eq (read _), bind_eq others, past_past, past_past]
    rw [List.length_cons, List.length_append, Nat.add_comm, Nat.add_assoc]
    rfl

theorem readsNode_list (reads : ∀ item, ReadsNode false (itemKinds item) levels (document item))
    (items : List α) :
    ReadsNode true (listKinds itemKinds items) (levels + 1) (.sequence (items.map document)) := by
  cases items with
  | nil => exact readsNode_brackets levels
  | cons item items =>
    refine ⟨⟨_, rfl, rfl⟩, fun fuel r more enough calm ahead outside => ?_⟩
    rw [listKinds, List.isEmpty_cons, if_neg Bool.false_ne_true] at enough ahead ⊢
    obtain ⟨fuel, rfl⟩ : ∃ n, fuel = n + 2 := ⟨fuel - 2, by simp at enough; omega⟩
    obtain ⟨start, stop, rest, tokens⟩ := next_token ahead
    obtain ⟨nodes, others, each⟩ :=
      indentlessItems_read reads (item :: items) rfl (by simp at enough; omega : 1 ≤ fuel)
        (by omega) ahead calm (outside rfl)
    have known : body (fuel + 1) true true true start none ⟨.blockEntry, start, stop⟩ r =
        (do return .sequence start none (← indentlessItems fuel) : Reading Node) r := by
      rw [body]
      rfl
    refine ⟨.sequence start none nodes, ?_, fun content depth deep => ?_⟩
    · rw [node_eq calm tokens rfl, known, bind_eq others]
      rfl
    · obtain ⟨depth, rfl⟩ : ∃ n, depth = n + 1 := ⟨depth - 1, by omega⟩
      rw [Content.documentOf_sequence, Content.mapM_eq (each.imp fun _ _ means =>
        means content depth (Nat.le_of_succ_le_succ deep))]
      rfl

end Items

end Lists

section Mappings

variable {levels : Nat}

theorem key_read {name : String} (ahead : r.kinds = .scalar name .plain :: more)
    (calm : r.problem = none) (stop : Option Mark) (fuel : Nat) :
    ∃ mark, part (fuel + 3) true true [.key, .value, .blockEnd] stop r =
      (.scalar mark none .plain name, r.past 1) := by
  obtain ⟨start, _, rest, tokens⟩ := next_token ahead
  obtain ⟨mark, read⟩ := node_scalar ahead calm fuel
  exact ⟨mark, (part_eq tokens rfl _).trans read⟩

theorem blockValue_read {field : Field} (reads : ReadsNode true field.content levels field.document)
    {fuel : Nat} (enough : 4 * field.content.length + 1 < fuel)
    (ahead : r.kinds = .value :: field.content ++ more) (calm : r.problem = none)
    (outside : ∃ kind ∈ more.head?, kind ≠ .blockEntry) :
    ∃ node, blockValue fuel r = (node, r.past (.value :: field.content : List Token.Kind).length) ∧
      node.Means levels field.document := by
  obtain ⟨fuel, rfl⟩ : ∃ n, fuel = n + 1 := ⟨fuel - 1, by omega⟩
  obtain ⟨start, stop, rest, tokens⟩ := next_token ahead
  obtain ⟨node, read, means⟩ := reads.part startsNode_field
    (by omega : _ < fuel) (kinds_behind ahead) calm fun _ => outside
  refine ⟨node, ?_, means⟩
  rw [blockValue, bind_eq (next?_eq tokens)]
  dsimp only
  rw [bind_eq pass_eq, read, past_past, List.length_cons, Nat.add_comm]

theorem blockEntries_read (fields : List Field)
    (reads : ∀ field ∈ fields, ReadsNode true field.content levels field.document)
    {fuel : Nat} {r : NodeReader} {kinds : List Token.Kind}
    (known : kinds = fields.flatMap Field.kinds)
    (alive : 1 ≤ fuel) (enough : 4 * kinds.length ≤ fuel + 2)
    (ahead : r.kinds = kinds ++ .blockEnd :: more) (calm : r.problem = none) (start : Mark) :
    ∃ entries, blockEntries fuel start r = (entries, r.past (kinds.length + 1)) ∧
      List.Forall₂ (fun entry field => field.IsEntry levels entry) entries fields := by
  induction fields generalizing fuel r kinds with
  | nil =>
    obtain rfl : kinds = [] := known
    obtain ⟨fuel, rfl⟩ := Nat.exists_eq_add_of_le' alive
    obtain ⟨_, stop, rest, tokens⟩ := next_token ahead
    refine ⟨[], ?_, .nil⟩
    rw [blockEntries, bind_eq (next?_eq tokens)]
    dsimp only
    rw [bind_eq pass_eq]
    rfl
  | cons field fields ih =>
    obtain ⟨later, split⟩ : ∃ later, later = fields.flatMap Field.kinds := ⟨_, rfl⟩
    obtain rfl : kinds = field.kinds ++ later := by rw [known, split, List.flatMap_cons]
    rw [Field.kinds, fieldKinds, List.length_append, List.length_cons, List.length_cons,
      List.length_cons] at enough
    obtain ⟨fuel, rfl⟩ : ∃ n, fuel = n + 4 := ⟨fuel - 4, by omega⟩
    obtain ⟨_, stop, rest, tokens⟩ := next_token ahead
    have name : (r.past 1).kinds = .scalar field.name .plain :: .value :: field.content ++
        (later ++ .blockEnd :: more) := by
      rw [List.append_assoc] at ahead
      exact kinds_behind ahead
    have outside : ∃ kind ∈ (later ++ .blockEnd :: more).head?, kind ≠ .blockEntry := by
      cases fields <;> exact split ▸ ⟨_, rfl, nofun⟩
    have value := kinds_behind name
    have behind : (((r.past 1).past 1).past
        (.value :: field.content : List Token.Kind).length).kinds = later ++ .blockEnd :: more :=
      kinds_past value
    obtain ⟨mark, key⟩ := key_read name calm (some stop) fuel
    obtain ⟨node, read, means⟩ := blockValue_read (reads field List.mem_cons_self)
      (by omega : _ < fuel + 3) value calm outside
    obtain ⟨entries, others, each⟩ :=
      ih (fun field later => reads field (List.mem_cons_of_mem _ later)) split
        (by omega : 1 ≤ fuel + 3) (by omega) behind calm
    refine ⟨(_, node) :: entries, ?_, .cons ⟨⟨mark, rfl⟩, means⟩ each⟩
    rw [blockEntries, bind_eq (next?_eq tokens)]
    dsimp only
    rw [bind_eq pass_eq, bind_eq key, bind_eq read, bind_eq others, past_past, past_past,
      past_past]
    have total :
        1 + (1 + ((.value :: field.content : List Token.Kind).length + (later.length + 1))) =
        (field.kinds ++ later).length + 1 := by
      rw [Field.kinds, fieldKinds, List.length_append]
      simp only [List.length_cons]
      omega
    rw [← total]
    rfl

theorem readsNode_mapping {indentless : Bool} {fields : List Field}
    (reads : ∀ field ∈ fields, ReadsNode true field.content levels field.document) :
    ReadsNode indentless (mappingKinds fields) (levels + 1)
      (.mapping (fields.map fun field => (.text field.name, field.document))) := by
  refine ⟨⟨_, rfl, rfl⟩, fun fuel r more enough calm ahead _ => ?_⟩
  rw [mappingKinds] at enough ahead ⊢
  rw [List.length_cons, List.length_append, List.length_singleton] at enough
  obtain ⟨fuel, rfl⟩ : ∃ n, fuel = n + 2 := ⟨fuel - 2, by omega⟩
  obtain ⟨start, stop, rest, tokens⟩ := next_token ahead
  have behind : (r.past 1).kinds = fields.flatMap Field.kinds ++ .blockEnd :: more := by
    rw [List.cons_append, List.append_assoc] at ahead
    exact kinds_behind ahead
  obtain ⟨entries, others, each⟩ := blockEntries_read fields reads rfl (by omega : 1 ≤ fuel)
    (by omega) behind calm start
  have known : body (fuel + 1) true indentless true start none ⟨.blockMappingStart, start, stop⟩ r =
      (do pass; return .mapping start none (← blockEntries fuel start) : Reading Node) r := by
    unfold body
    cases indentless <;> rfl
  refine ⟨.mapping start none entries, ?_, fun content depth deep => ?_⟩
  · rw [node_eq calm tokens rfl, known, bind_eq pass_eq, bind_eq others, past_past,
      List.length_cons, List.length_append, List.length_singleton, Nat.add_comm 1]
    rfl
  · obtain ⟨depth, rfl⟩ : ∃ n, depth = n + 1 := ⟨depth - 1, by omega⟩
    rw [Content.documentOf_mapping, Content.mapM_eq (each.imp fun entry field known => ?_)]
    · rfl
    · exact known.read (Nat.le_of_succ_le_succ deep)

end Mappings

section Root

variable {kinds : List Token.Kind} {levels : Nat} {d : Document}

theorem finish_eq (ahead : r.kinds = [.streamEnd]) : finish r = ((), r) := by
  obtain ⟨_, _, rest, tokens⟩ := next_token ahead
  have nothing : hasMore r.tokens = false := by rw [tokens]; rfl
  rw [finish, bind_eq (next?_eq tokens)]
  change (if hasMore r.tokens = true then stop .severalDocuments else pure ()) r = ((), r)
  rw [nothing]
  rfl

theorem ReadsNode.root (reads : ReadsNode false kinds levels d)
    (ahead : r.kinds = kinds ++ [Token.Kind.streamEnd]) (calm : r.problem = none) {fuel : Nat}
    (enough : 4 * kinds.length ≤ fuel) : ∃ root reader, root.Means levels d ∧
      Reading.root? fuel r = (some root, reader) ∧ finish reader = ((), reader) ∧
        reader.problem = none := by
  obtain ⟨token, rest, tokens, starts⟩ := reads.first_token ahead
  let s : NodeReader := { r with handles := r.handles ++ standardHandles }
  obtain ⟨root, read, means⟩ := reads.read fuel s _ enough calm ahead nofun
  have known : root? fuel r =
      (do return some (← node fuel true false) : Reading (Option Node)) s := by
    rw [root?, bind_eq (next?_eq tokens)]
    dsimp only
    generalize token.kind = kind at starts
    cases kind
    case scalar | flowSequenceStart | blockMappingStart => rfl
    all_goals exact nomatch starts
  refine ⟨root, s.past kinds.length, means, ?_, finish_eq (kinds_past ahead), calm⟩
  rw [known, bind_eq read]
  rfl

end Root

end Reading

/-- The value of a text whose tokens are those of one node. -/
theorem Content.value?_ofText {text : List Char} {tokens : List Token} {kinds : List Token.Kind}
    {levels : Nat} {d : Document} (stream : TokenStream.ofText text = { tokens })
    (ahead : tokens.map (·.kind) = kinds ++ [.streamEnd])
    (reads : Reading.ReadsNode false kinds levels d) (near : levels ≤ maxNesting) :
    (Content.ofText text).value? = d.toValue? := by
  let r : NodeReader := { tokens, fault := none }
  have enough : 4 * kinds.length ≤ 4 * tokens.length + 4 := by
    have counted := congrArg List.length ahead
    rw [List.length_map, List.length_append] at counted
    omega
  obtain ⟨root, reader, means, read, finished, calm⟩ := reads.root (r := r) ahead rfl enough
  have known : Content.ofText text =
      { root := some root, anchored := reader.anchored.toList, problem := none } := by
    have whole : (do
        let root ← Reading.root? (4 * tokens.length + 4)
        if root.isSome then Reading.finish
        return root : Reading (Option Node)).run r = (some root, reader) := by
      change (Reading.root? _ >>= _) r = _
      rw [Reading.bind_eq read]
      change (Reading.finish >>= _) reader = _
      rw [Reading.bind_eq finished]
      rfl
    rw [Content.ofText, stream]
    dsimp only
    rw [whole]
    exact congrArg (Content.mk (some root) reader.anchored.toList) calm
  rw [known, Content.value?]
  change ((Content.documentOf _ true maxNesting root).run' _ >>= fun d => d.toValue?) = d.toValue?
  rw [means _ _ near]
  rfl

end SchemaCheck.Yaml

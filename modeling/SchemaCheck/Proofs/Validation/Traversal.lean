import SchemaCheck.Proofs.Validation.Visit

/-!
The visits that a validation makes down to a depth, as a list. It holds each visited place twice, on
the way down and on the way up (`mem_nodeEvents`), in the order of the document
(`nodeEvents_inOrder`), and what is found at these places is what the engine finds
(`nodeFindings_reports`), also where the engine goes deeper and the last places stand for all that
lies inside them (`nodeFindings_listed`).
-/

namespace SchemaCheck

open Json (Value)
open Reference

section Events

variable (maxDepth : Nat)

def elementEvents (events : List Step → Value → List (Visit × Phase)) (route : List Step) :
    Nat → List Value → List (Visit × Phase)
  | _, [] => []
  | index, value :: rest =>
    events (route ++ [.element index]) value ++ elementEvents events route (index + 1) rest

mutual

/-- The visits at a place and inside it, each with its two phases. -/
def nodeEvents : Node → List Step → Value → List (Visit × Phase)
  | ⟨rules, items, properties⟩, route, value =>
    let visit : Visit := ⟨route, ⟨rules, items, properties⟩, value⟩
    let inner :=
      if maxDepth < route.length then []
      else
        match value with
        | .object fields =>
          if rules.kind = some .object then propertyEvents properties route fields else []
        | .array values => if rules.kind = some .array then itemEvents items route values else []
        | _ => []
    (visit, .opening) :: (inner ++ [(visit, .closing)])

def propertyEvents : List (String × Node) → List Step → List (String × Value) →
    List (Visit × Phase)
  | [], _, _ => []
  | (name, node) :: rest, route, fields =>
    (match Fields.get? fields name with
      | some value => nodeEvents node (route ++ [.field name]) value
      | none => []) ++ propertyEvents rest route fields

def itemEvents : Option Node → List Step → List Value → List (Visit × Phase)
  | none, _, _ => []
  | some node, route, values => elementEvents (nodeEvents node) route 0 values

end

def innerEvents (node : Node) (route : List Step) (value : Value) : List (Visit × Phase) :=
  if maxDepth < route.length then []
  else
    match value with
    | .object fields =>
      if node.rules.kind = some .object then propertyEvents maxDepth node.properties route fields
      else []
    | .array values =>
      if node.rules.kind = some .array then itemEvents maxDepth node.items route values else []
    | _ => []

theorem nodeEvents_eq (node : Node) (route : List Step) (value : Value) :
    nodeEvents maxDepth node route value =
      (⟨route, node, value⟩, .opening) ::
        (innerEvents maxDepth node route value ++ [(⟨route, node, value⟩, .closing)]) := by
  obtain ⟨rules, items, properties⟩ := node
  cases value <;> simp only [nodeEvents, innerEvents]

end Events

section Findings

variable {settings : ValidationSettings} {registry : Registry} {depth : Nat}

theorem adapt?_container {kind : Kind} (container : kind.isScalar = false) {value content : Value}
    (adapted : settings.adapt? kind value = some content) : content = value := by
  simp only [ValidationSettings.adapt?, container, Bool.and_false, Bool.false_eq_true,
    if_false] at adapted
  split at adapted
  · exact (Option.some.inj adapted).symm
  · cases adapted

/-- What is to be shown of a node: what is found in a value is what the events list that go down to
a depth. -/
def ListsEvents (settings : ValidationSettings) (registry : Registry) (depth : Nat) (node : Node) :
    Prop :=
  ∀ (route : List Step) (value : Value),
    nodeFindings settings registry node (.ofRoute route) value =
      (nodeEvents depth node route value).flatMap fun event =>
        event.1.listed settings registry depth (Visit.block settings registry) event.2

theorem elementFindings_events {node : Node} (lists : ListsEvents settings registry depth node)
    (route : List Step) (index : Nat) (values : List Value) :
    elementFindings (nodeFindings settings registry node) (.ofRoute route) index values =
      (elementEvents (nodeEvents depth node) route index values).flatMap fun event =>
        event.1.listed settings registry depth (Visit.block settings registry) event.2 := by
  induction values generalizing index with
  | nil => rfl
  | cons value rest ih =>
    have place : (Location.ofRoute route).element index =
        .ofRoute (route ++ [.element index]) := (Location.ofRoute_snoc route (.element index)).symm
    rw [elementFindings, elementEvents, List.flatMap_append, ih, place, lists]

theorem itemFindings_events {items : Option Node}
    (lists : ∀ node ∈ items, ListsEvents settings registry depth node) (route : List Step)
    (values : List Value) :
    itemFindings settings registry items (.ofRoute route) values =
      (itemEvents depth items route values).flatMap fun event =>
        event.1.listed settings registry depth (Visit.block settings registry) event.2 := by
  cases items with
  | none => simp only [itemFindings, itemEvents, List.flatMap_nil]
  | some node =>
    simp only [itemFindings, itemEvents]
    exact elementFindings_events (lists node rfl) route 0 values

theorem propertyFindings_events {properties : List (String × Node)}
    (lists : ∀ entry ∈ properties, ListsEvents settings registry depth entry.2)
    (route : List Step) (fields : List (String × Value)) :
    propertyFindings settings registry properties (.ofRoute route) fields =
      (propertyEvents depth properties route fields).flatMap fun event =>
        event.1.listed settings registry depth (Visit.block settings registry) event.2 := by
  induction properties with
  | nil => simp only [propertyFindings, propertyEvents, List.flatMap_nil]
  | cons entry rest ih =>
    obtain ⟨name, node⟩ := entry
    have place : (Location.ofRoute route).field name = .ofRoute (route ++ [.field name]) :=
      (Location.ofRoute_snoc route (.field name)).symm
    rw [propertyFindings, propertyEvents, List.flatMap_append,
      ih fun entry later => lists entry (List.mem_cons_of_mem _ later)]
    congr 1
    unfold fieldFindings
    cases Fields.get? fields name with
    | none => rfl
    | some value => rw [place]; exact lists _ List.mem_cons_self _ value

theorem innerEvents_refused {node : Node} {kind : Kind} (expected : node.rules.kind = some kind)
    (route : List Step) {value : Value} (refuses : kind.admits value = false) :
    innerEvents depth node route value = [] := by
  unfold innerEvents
  rw [expected]
  cases value <;> cases kind <;> simp_all [Kind.admits]

theorem innerEvents_scalar {node : Node} {kind : Kind} (expected : node.rules.kind = some kind)
    (route : List Step) (value : Value) (scalar : kind.isScalar = true) :
    innerEvents depth node route value = [] := by
  unfold innerEvents
  rw [expected]
  cases value <;> cases kind <;> simp_all [Kind.isScalar]

theorem contentFindings_events (node : Node)
    (ofItems : ∀ item ∈ node.items, ListsEvents settings registry depth item)
    (ofProperties : ∀ entry ∈ node.properties, ListsEvents settings registry depth entry.2)
    {route : List Step} (shallow : route.length ≤ depth) {kind : Kind}
    (expected : node.rules.kind = some kind) {value content : Value}
    (adapted : settings.adapt? kind value = some content) :
    contentFindings settings registry node (.ofRoute route) content =
      Visit.kindFindings ⟨route, node, value⟩ kind content ++
        (innerEvents depth node route value).flatMap fun event =>
          event.1.listed settings registry depth (Visit.block settings registry) event.2 := by
  have admits := adapt?_admits adapted
  cases scalar : kind.isScalar with
  | true =>
    rw [innerEvents_scalar expected route value scalar, List.flatMap_nil, List.append_nil]
    cases content <;> cases kind <;>
      simp_all [Kind.admits, Kind.isScalar, contentFindings, Visit.kindFindings, Visit.location]
  | false =>
    obtain rfl := adapt?_container scalar adapted
    unfold innerEvents
    rw [if_neg (Nat.not_lt.mpr shallow), expected]
    cases content with
    | object fields =>
      obtain rfl : kind = .object := by cases kind <;> simp_all [Kind.admits]
      simp only [contentFindings, if_true, propertyFindings_events ofProperties]
      rfl
    | array values =>
      obtain rfl : kind = .array := by cases kind <;> simp_all [Kind.admits]
      simp only [contentFindings, if_true, itemFindings_events ofItems]
      rfl
    | _ => cases kind <;> simp_all [Kind.admits, Kind.isScalar]

/-- Validation that goes deeper than the events: what it finds is what they list. -/
theorem nodeFindings_listed (near : depth ≤ settings.maxDepth) (node : Node) :
    ListsEvents settings registry depth node := by
  induction node using Node.induction with
  | step rules items properties ofItems ofProperties =>
    intro route value
    have length := Location.ofRoute_depth route
    rw [nodeEvents_eq, List.flatMap_cons, List.flatMap_append, List.flatMap_singleton]
    by_cases below : route.length ≤ depth
    · have shallow : ¬settings.maxDepth < (Location.ofRoute route).depth := by omega
      have inside : ¬settings.maxDepth < route.length := by omega
      simp only [Visit.listed, if_pos below, Visit.reports, if_neg inside]
      cases expected : rules.kind with
      | none =>
        have nothing : innerEvents depth ⟨rules, items, properties⟩ route value = [] := by
          unfold innerEvents
          rw [expected]
          cases value <;> simp
        rw [nodeFindings_untyped shallow expected, nothing]
        rfl
      | some kind =>
        cases adapted : settings.adapt? kind value with
        | none =>
          have refuses : kind.admits value = false := by
            refine Bool.eq_false_iff.mpr fun admits => ?_
            rw [adapt?_admitted settings admits] at adapted
            cases adapted
          rw [nodeFindings_mismatch shallow expected adapted,
            innerEvents_refused expected route refuses]
          simp [adapted, Visit.location]
        | some content =>
          rw [nodeFindings_content shallow expected adapted, contentFindings_events
            ⟨rules, items, properties⟩ ofItems ofProperties below expected adapted]
          simp only [adapted, List.append_assoc]
          rfl
    · have nothing : innerEvents depth ⟨rules, items, properties⟩ route value = [] := by
        unfold innerEvents
        rw [if_pos (Nat.lt_of_not_le below)]
      rw [nothing]
      simp only [Visit.listed, if_neg below, Visit.block, List.flatMap_nil, List.append_nil]
      rfl

/-- At the greatest depth itself, what stands for the whole of a place is what is found there. -/
theorem listed_maxDepth (visit : Visit) (phase : Phase) :
    visit.listed settings registry settings.maxDepth (Visit.block settings registry) phase =
      visit.reports settings registry phase := by
  unfold Visit.listed
  split
  next => rfl
  next below =>
    have deep : settings.maxDepth < visit.route.length := Nat.lt_of_not_le below
    have located : settings.maxDepth < visit.location.depth := by
      rwa [Visit.location, Location.ofRoute_depth]
    cases phase with
    | opening => simp only [Visit.block, nodeFindings_deep located, Visit.reports, if_pos deep]
    | closing => simp only [Visit.reports, if_pos deep]

theorem nodeFindings_reports (node : Node) (route : List Step) (value : Value) :
    nodeFindings settings registry node (.ofRoute route) value =
      (nodeEvents settings.maxDepth node route value).flatMap fun event =>
        event.1.reports settings registry event.2 := by
  rw [nodeFindings_listed (Nat.le_refl settings.maxDepth) node]
  simp only [listed_maxDepth]

variable {maxDepth : Nat}

theorem reports_strict (visit : Visit) (phase : Phase) :
    visit.reports (.strict maxDepth) registry phase = visit.findings maxDepth registry phase := by
  have adapt (kind : Kind) : (ValidationSettings.strict maxDepth).adapt? kind visit.value =
      if kind.admits visit.value then some visit.value else none := by
    simp [ValidationSettings.adapt?, ValidationSettings.strict]
  have bound : (ValidationSettings.strict maxDepth).maxDepth = maxDepth := rfl
  cases phase <;> simp only [Visit.reports, Visit.findings, adapt, bound]
  all_goals
    cases visit.node.rules.kind with
    | none => simp
    | some kind => cases admits : kind.admits visit.value <;> simp [admits]

/-- What strict validation finds is what the rules of the places find, in order. -/
theorem nodeFindings_events (node : Node) (route : List Step) (value : Value) :
    nodeFindings (.strict maxDepth) registry node (.ofRoute route) value =
      (nodeEvents maxDepth node route value).flatMap fun event =>
        event.1.findings maxDepth registry event.2 := by
  rw [nodeFindings_reports]
  simp only [reports_strict]
  rfl

end Findings

section Members

variable {maxDepth : Nat}

/-- What is to be shown of a node: its events are those of the visited places. -/
def CoversVisits (maxDepth : Nat) (node : Node) : Prop :=
  ∀ (route : List Step) (value : Value) (visit : Visit) (phase : Phase),
    (visit, phase) ∈ nodeEvents maxDepth node route value ↔
      Visit.Visited maxDepth ⟨route, node, value⟩ visit

theorem mem_elementEvents {node : Node} (covers : CoversVisits maxDepth node) (route : List Step)
    (start : Nat) (values : List Value) (visit : Visit) (phase : Phase) :
    (visit, phase) ∈ elementEvents (nodeEvents maxDepth node) route start values ↔
      ∃ index value, values[index]? = some value ∧
        Visit.Visited maxDepth ⟨route ++ [.element (start + index)], node, value⟩ visit := by
  induction values generalizing start with
  | nil => simp [elementEvents]
  | cons first rest ih =>
    rw [elementEvents, List.mem_append, covers, ih]
    constructor
    · rintro (here | ⟨index, value, inside, visited⟩)
      · exact ⟨0, first, rfl, here⟩
      · refine ⟨index + 1, value, inside, ?_⟩
        rwa [show start + (index + 1) = start + 1 + index by omega]
    · rintro ⟨index, value, inside, visited⟩
      cases index with
      | zero =>
        obtain rfl : first = value := Option.some.inj inside
        exact .inl visited
      | succ index =>
        refine .inr ⟨index, value, inside, ?_⟩
        rwa [show start + 1 + index = start + (index + 1) by omega]

theorem mem_propertyEvents {properties : List (String × Node)}
    (covers : ∀ entry ∈ properties, CoversVisits maxDepth entry.2) (route : List Step)
    (fields : List (String × Value)) (visit : Visit) (phase : Phase) :
    (visit, phase) ∈ propertyEvents maxDepth properties route fields ↔
      ∃ name node value, (name, node) ∈ properties ∧ Fields.get? fields name = some value ∧
        Visit.Visited maxDepth ⟨route ++ [.field name], node, value⟩ visit := by
  induction properties with
  | nil => simp [propertyEvents]
  | cons entry rest ih =>
    obtain ⟨name, node⟩ := entry
    rw [propertyEvents, List.mem_append,
      ih fun entry later => covers entry (List.mem_cons_of_mem _ later)]
    have here := covers (name, node) List.mem_cons_self
    constructor
    · rintro (inside | ⟨other, part, value, declared, present, visited⟩)
      · cases present : Fields.get? fields name with
        | none => simp [present] at inside
        | some value =>
          simp only [present] at inside
          exact ⟨name, node, value, List.mem_cons_self, present, (here _ _ _ _).mp inside⟩
      · exact ⟨other, part, value, List.mem_cons_of_mem _ declared, present, visited⟩
    · rintro ⟨other, part, value, declared, present, visited⟩
      cases declared with
      | head =>
        left
        simp only [present]
        exact (here _ _ _ _).mpr visited
      | tail _ later => exact .inr ⟨other, part, value, later, present, visited⟩

theorem mem_innerEvents (node : Node) (ofItems : ∀ item ∈ node.items, CoversVisits maxDepth item)
    (ofProperties : ∀ entry ∈ node.properties, CoversVisits maxDepth entry.2)
    (route : List Step) (value : Value) (visit : Visit) (phase : Phase) :
    (visit, phase) ∈ innerEvents maxDepth node route value ↔
      ∃ child, Visit.Child maxDepth ⟨route, node, value⟩ child ∧
        Visit.Visited maxDepth child visit := by
  constructor
  · intro inside
    unfold innerEvents at inside
    split at inside
    next => cases inside
    next shallow =>
    have near : route.length ≤ maxDepth := Nat.le_of_not_lt shallow
    cases value with
    | object fields =>
      by_cases expected : node.rules.kind = some .object
      · simp only [if_pos expected] at inside
        obtain ⟨name, part, value, declared, present, visited⟩ :=
          (mem_propertyEvents ofProperties route fields visit phase).mp inside
        exact ⟨_, .field near expected declared present, visited⟩
      · simp [expected] at inside
    | array values =>
      by_cases expected : node.rules.kind = some .array
      · simp only [if_pos expected] at inside
        cases shape : node.items with
        | none => simp [shape, itemEvents] at inside
        | some part =>
          rw [shape, itemEvents] at inside
          obtain ⟨index, value, found, visited⟩ :=
            (mem_elementEvents (ofItems part shape) route 0 values visit phase).mp inside
          rw [Nat.zero_add] at visited
          exact ⟨_, .element near expected shape found, visited⟩
      · simp [expected] at inside
    | _ => cases inside
  · rintro ⟨child, step, visited⟩
    unfold innerEvents
    cases step with
    | field near expected declared present =>
      rw [if_neg (Nat.not_lt.mpr near)]
      simp only [if_pos expected]
      exact (mem_propertyEvents ofProperties route _ visit phase).mpr
        ⟨_, _, _, declared, present, visited⟩
    | @element _ _ part values index value near expected shape found =>
      rw [if_neg (Nat.not_lt.mpr near)]
      simp only [if_pos expected]
      rw [shape, itemEvents]
      refine (mem_elementEvents (ofItems part shape) route 0 values visit phase).mpr
        ⟨index, value, found, ?_⟩
      rwa [Nat.zero_add]

theorem mem_nodeEvents (node : Node) : CoversVisits maxDepth node := by
  induction node using Node.induction with
  | step rules items properties ofItems ofProperties =>
    intro route value visit phase
    rw [nodeEvents_eq, List.mem_cons, List.mem_append, List.mem_singleton,
      mem_innerEvents ⟨rules, items, properties⟩ ofItems ofProperties]
    constructor
    · rintro (here | ⟨child, step, visited⟩ | here)
      · cases here
        exact .refl
      · exact .head step visited
      · cases here
        exact .refl
    · intro visited
      rcases Relation.ReflTransGen.cases_head visited with rfl | ⟨child, step, later⟩
      · cases phase with
        | opening => exact .inl rfl
        | closing => exact .inr (.inr rfl)
      · exact .inr (.inl ⟨child, step, later⟩)

end Members

section Order

variable {maxDepth : Nat}

theorem Step.Before.ne {first second : Step} (ordered : first.Before second) : first ≠ second := by
  rintro rfl
  cases ordered with
  | field ordered => exact String.lt_irrefl _ ordered
  | element ordered => exact Nat.lt_irrefl _ ordered

theorem Before.ne {first second : List Step × Phase} (ordered : Before first second) :
    first ≠ second := by
  intro same
  cases ordered with
  | around => cases same
  | into route first rest phase => simp at same
  | outOf route first rest phase => simp at same
  | beside route ordered rest others phase other =>
    simp only [Prod.mk.injEq, List.append_cancel_left_eq, List.cons.injEq] at same
    exact ordered.ne same.1.1

theorem Visit.Visited.route {start visit : Visit} (visited : Visited maxDepth start visit) :
    ∃ rest, visit.route = start.route ++ rest := by
  induction visited with
  | refl => exact ⟨[], (List.append_nil _).symm⟩
  | tail _ step ih =>
    obtain ⟨rest, behind⟩ := ih
    cases step <;> exact ⟨rest ++ [_], by rw [← List.append_assoc, ← behind]⟩

/-- What is reached from an earlier child stands before what is reached from a later one. -/
theorem Visit.Visited.beside {route : List Step} {first second : Step} {node part : Node}
    {value content : Value} {here later : Visit}
    (inFirst : Visited maxDepth ⟨route ++ [first], node, value⟩ here)
    (inSecond : Visited maxDepth ⟨route ++ [second], part, content⟩ later)
    (ordered : first.Before second) (phase other : Phase) :
    Before (here.route, phase) (later.route, other) := by
  obtain ⟨behind, hereRoute⟩ := inFirst.route
  obtain ⟨laterBehind, laterRoute⟩ := inSecond.route
  simp only [List.append_assoc, List.singleton_append] at hereRoute laterRoute
  rw [hereRoute, laterRoute]
  exact .beside route ordered _ _ _ _

def InOrder (events : List (Visit × Phase)) : Prop :=
  events.Pairwise fun first second => Before (first.1.route, first.2) (second.1.route, second.2)

theorem InOrder.nodup {events : List (Visit × Phase)} (ordered : InOrder events) : events.Nodup :=
  ordered.imp fun before same => before.ne (by rw [same])

theorem elementEvents_inOrder {node : Node}
    (ordered : ∀ route value, InOrder (nodeEvents maxDepth node route value)) (route : List Step)
    (start : Nat) (values : List Value) :
    InOrder (elementEvents (nodeEvents maxDepth node) route start values) := by
  induction values generalizing start with
  | nil => exact List.Pairwise.nil
  | cons first rest ih =>
    refine List.pairwise_append.mpr ⟨ordered _ _, ih (start + 1), ?_⟩
    intro here inFirst later inRest
    obtain ⟨index, value, _, visited⟩ :=
      (mem_elementEvents (mem_nodeEvents node) route (start + 1) rest _ _).mp inRest
    exact ((mem_nodeEvents node _ _ _ _).mp inFirst).beside visited (.element (by omega)) _ _

theorem propertyEvents_inOrder {properties : List (String × Node)}
    (sorted : Fields.Sorted properties)
    (ordered : ∀ entry ∈ properties, ∀ route value,
      InOrder (nodeEvents maxDepth entry.2 route value))
    (route : List Step) (fields : List (String × Value)) :
    InOrder (propertyEvents maxDepth properties route fields) := by
  induction properties with
  | nil => simp only [propertyEvents]; exact List.Pairwise.nil
  | cons entry rest ih =>
    obtain ⟨name, node⟩ := entry
    simp only [Fields.Sorted, List.map_cons, List.pairwise_cons] at sorted
    rw [propertyEvents]
    refine List.pairwise_append.mpr ⟨?_, ih sorted.2 fun entry later =>
      ordered entry (List.mem_cons_of_mem _ later), ?_⟩
    · cases Fields.get? fields name with
      | none => exact List.Pairwise.nil
      | some value => exact ordered _ List.mem_cons_self _ value
    · intro here inFirst later inRest
      cases present : Fields.get? fields name with
      | none => simp [present] at inFirst
      | some value =>
        simp only [present] at inFirst
        obtain ⟨other, part, _, declared, _, visited⟩ :=
          (mem_propertyEvents (fun entry _ => mem_nodeEvents entry.2) route fields _ _).mp inRest
        exact ((mem_nodeEvents node _ _ _ _).mp inFirst).beside visited
          (.field (sorted.1 other (List.mem_map_of_mem declared))) _ _

theorem innerEvents_inOrder (node : Node) (own : Fields.Sorted node.properties)
    (ofItems : ∀ item ∈ node.items, ∀ route value, InOrder (nodeEvents maxDepth item route value))
    (ofProperties : ∀ entry ∈ node.properties, ∀ route value,
      InOrder (nodeEvents maxDepth entry.2 route value))
    (route : List Step) (value : Value) : InOrder (innerEvents maxDepth node route value) := by
  unfold innerEvents
  split
  · exact List.Pairwise.nil
  cases value with
  | object fields =>
    dsimp only
    split
    · exact propertyEvents_inOrder own ofProperties route fields
    · exact List.Pairwise.nil
  | array values =>
    dsimp only
    split
    · cases shape : node.items with
      | none => simp only [itemEvents]; exact List.Pairwise.nil
      | some item =>
        rw [itemEvents]
        exact elementEvents_inOrder (ofItems item shape) route 0 values
    · exact List.Pairwise.nil
  | _ => exact List.Pairwise.nil

theorem nodeEvents_inOrder {node : Node} (sorted : node.Sorted) (route : List Step)
    (value : Value) : InOrder (nodeEvents maxDepth node route value) := by
  induction node using Node.induction generalizing route value with
  | step rules items properties ofItems ofProperties =>
    obtain ⟨own, sortedItems, sortedProperties⟩ := sorted
    have inner : InOrder (innerEvents maxDepth ⟨rules, items, properties⟩ route value) :=
      innerEvents_inOrder _ own (fun item member => ofItems item member (sortedItems item member))
        (fun entry member => ofProperties entry member (sortedProperties entry member)) route value
    have behind : ∀ event ∈ innerEvents maxDepth ⟨rules, items, properties⟩ route value,
        ∃ first rest, event.1.route = route ++ first :: rest := by
      intro event member
      obtain ⟨child, step, visited⟩ := (mem_innerEvents _ (fun item _ => mem_nodeEvents item)
        (fun entry _ => mem_nodeEvents entry.2) route value event.1 event.2).mp member
      obtain ⟨rest, route⟩ := visited.route
      cases step <;> exact ⟨_, rest, by simpa using route⟩
    rw [nodeEvents_eq]
    refine List.pairwise_cons.mpr ⟨fun event member => ?_, List.pairwise_append.mpr
      ⟨inner, List.pairwise_singleton _ _, fun event member last isLast => ?_⟩⟩
    · rcases List.mem_append.mp member with inside | last
      · obtain ⟨first, rest, there⟩ := behind event inside
        rw [there]
        exact .into route first rest event.2
      · obtain rfl := List.mem_singleton.mp last
        exact .around route
    · obtain rfl := List.mem_singleton.mp isLast
      obtain ⟨first, rest, there⟩ := behind event member
      rw [there]
      exact .outOf route first rest event.2

end Order

end SchemaCheck

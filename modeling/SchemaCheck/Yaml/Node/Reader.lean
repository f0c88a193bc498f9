import SchemaCheck.Yaml.Node
import SchemaCheck.Yaml.Token.Stream

/-!
Nodes from tokens, by descent. Reading goes on after a problem with no tokens left, so that what
has been read in front of it is kept.
-/

namespace SchemaCheck.Yaml

structure NodeReader where
  tokens : List Token
  /-- What is wrong behind the tokens. -/
  fault : Option Fault
  problem : Option Problem := none
  /-- What the handles of tags stand for. -/
  handles : List (String × String) := []
  /-- The numbers of the anchors in sight. -/
  names : List (String × Nat) := []
  anchored : Array (Nat × Node) := #[]

abbrev Reading := StateM NodeReader

namespace Reading

def stop (problem : Problem) : Reading Unit :=
  modify fun r => { r with tokens := [], problem := r.problem.or (some problem) }

/-- Stops at a token that may not stand where it is. -/
def refuse (problem : String) (place : Mark) (context : Option (String × Mark)) : Reading Unit :=
  stop (.fault { problem, place, context })

def next? : Reading (Option Token) := do
  let r ← get
  match r.tokens, r.fault with
  | token :: _, _ => return some token
  | [], some fault => stop (.fault fault); return none
  | [], none => return none

def pass : Reading Unit := modify fun r => { r with tokens := r.tokens.tail }

/-- An anchor and a tag, the latter with its place. -/
structure Properties where
  anchor : Option String := none
  tag : Option (String × String × Mark) := none

/-- Passes one more property of a node, if there is one of another kind than those seen. -/
def addProperty (properties : Properties) : Reading Properties := do
  match ← next? with
  | none => return properties
  | some token =>
    match token.kind, properties.anchor, properties.tag with
    | .anchor name, none, _ => pass; return { properties with anchor := some name }
    | .tag handle rest, _, none =>
      pass; return { properties with tag := some (handle, rest, token.start) }
    | _, _, _ => return properties

def properties : Reading Properties := do addProperty (← addProperty {})

def fullTag (start : Mark) : Option (String × String × Mark) → Reading (Option String)
  | none => return none
  | some (handle, rest, mark) => do
    if handle.isEmpty then return some rest
    else
      match (← get).handles.lookup handle with
      | some text => return some (text ++ rest)
      | none =>
        refuse "found undefined tag handle" mark (some ("while parsing a node", start))
        return none

/-- A node whose anchor, if it has one, is in sight from its beginning on. -/
def anchoring (anchor : Option String) (read : Reading Node) : Reading Node := do
  match anchor with
  | none => read
  | some name =>
    let r ← get
    let number := r.names.length
    let place := r.anchored.size
    let names := (name, number) :: r.names.filter (·.1 != name)
    set { r with names, anchored := r.anchored.push (number, .cut) }
    let node ← read
    modify fun r => { r with anchored := r.anchored.setIfInBounds place (number, node) }
    return node

def reference (name : String) (mark : Mark) : Reading Node := do
  match (← get).names.lookup name with
  | some number => return .reference mark number
  | none => stop (.unknownAnchor mark); return .cut

/-- A part of a flow collection, or its end; nothing if neither is there. -/
def flowPart? (first : Bool) (close : Token.Kind) (expected : String) (context : String × Mark) :
    Reading (Option (Option Token)) := do
  match ← next? with
  | none => return none
  | some token =>
    if token.kind = close then pass; return some none
    else if first then return some (some token)
    else if token.kind = .flowEntry then
      pass
      match ← next? with
      | none => return none
      | some token =>
        if token.kind = close then pass; return some none
        else return some (some token)
    else
      refuse expected token.start (some context)
      return none

mutual

/-- A node; `indentless` allows a sequence that is not indented. `fuel` bounds the descent. -/
def node : Nat → (block indentless : Bool) → Reading Node
  | 0, _, _ => return .cut
  | fuel + 1, block, indentless => do
    match ← next? with
    | none => return .cut
    | some first =>
      match first.kind with
      | .anchorReference name => pass; reference name first.start
      | _ =>
        let start := first.start
        let given ← properties
        match ← next? with
        | none => return .cut
        | some token =>
          let tag ← fullTag start given.tag
          if (← get).problem.isSome then return .cut
          else
            let bare := given.anchor.isNone && tag.isNone
            anchoring given.anchor (body fuel block indentless bare start tag token)

/-- A node behind its properties; `bare` tells that there are none. -/
def body : Nat → (block indentless bare : Bool) → Mark → Option String → Token → Reading Node
  | 0, _, _, _, _, _, _ => return .cut
  | fuel + 1, block, indentless, bare, start, tag, token => do
    match token.kind, block, indentless with
    | .blockEntry, _, true => return .sequence start tag (← indentlessItems fuel)
    | .scalar text style, _, _ =>
      pass
      return .scalar start (if tag = some "!" then none else tag) style text
    | .flowSequenceStart, _, _ =>
      pass
      return .sequence start tag (← flowItems fuel true token.start)
    | .flowMappingStart, _, _ =>
      pass
      return .mapping start tag (← flowEntries fuel true token.start)
    | .blockSequenceStart, true, _ =>
      pass
      return .sequence start tag (← blockItems fuel token.start)
    | .blockMappingStart, true, _ =>
      pass
      return .mapping start tag (← blockEntries fuel token.start)
    | _, _, _ =>
      if !bare then return .scalar start tag .plain ""
      else
        let context := if block then "while parsing a block node" else "while parsing a flow node"
        refuse "did not find expected node content" token.start (some (context, start))
        return .cut

/-- A node, or nothing in front of one of some tokens; `mark` is the place of what is not there. -/
def part : Nat → (block indentless : Bool) → List Token.Kind → Option Mark → Reading Node
  | 0, _, _, _, _ => return .cut
  | fuel + 1, block, indentless, ends, mark => do
    match ← next? with
    | none => return .cut
    | some token =>
      if ends.contains token.kind then return .empty (mark.getD token.start)
      else node fuel block indentless

def blockItems : Nat → Mark → Reading (List Node)
  | 0, _ => return [.cut]
  | fuel + 1, start => do
    match ← next? with
    | none => return [.cut]
    | some token =>
      match token.kind with
      | .blockEntry =>
        pass
        let item ← part fuel true false [.blockEntry, .blockEnd] token.stop
        return item :: (← blockItems fuel start)
      | .blockEnd => pass; return []
      | _ =>
        refuse "did not find expected '-' indicator" token.start
          (some ("while parsing a block collection", start))
        return [.cut]

def indentlessItems : Nat → Reading (List Node)
  | 0 => return [.cut]
  | fuel + 1 => do
    match ← next? with
    | none => return [.cut]
    | some token =>
      match token.kind with
      | .blockEntry =>
        pass
        let item ← part fuel true false [.blockEntry, .key, .value, .blockEnd] token.stop
        return item :: (← indentlessItems fuel)
      | _ => return []

def blockEntries : Nat → Mark → Reading (List (Node × Node))
  | 0, _ => return [(.cut, .cut)]
  | fuel + 1, start => do
    match ← next? with
    | none => return [(.cut, .cut)]
    | some token =>
      match token.kind with
      | .key =>
        pass
        let key ← part fuel true true [.key, .value, .blockEnd] token.stop
        let value ← blockValue fuel
        return (key, value) :: (← blockEntries fuel start)
      | .blockEnd => pass; return []
      | _ =>
        refuse "did not find expected key" token.start
          (some ("while parsing a block mapping", start))
        return [(.cut, .cut)]

def blockValue : Nat → Reading Node
  | 0 => return .cut
  | fuel + 1 => do
    match ← next? with
    | none => return .cut
    | some token =>
      match token.kind with
      | .value =>
        pass
        part fuel true true [.key, .value, .blockEnd] token.stop
      | _ => return .empty token.start

def flowItems : Nat → (first : Bool) → Mark → Reading (List Node)
  | 0, _, _ => return [.cut]
  | fuel + 1, first, start => do
    match ← flowPart? first .flowSequenceEnd "did not find expected ',' or ']'"
        ("while parsing a flow sequence", start) with
    | none => return [.cut]
    | some none => return []
    | some (some token) =>
      let item ←
        if token.kind = .key then do
          pass
          pure (Node.mapping token.start none [← flowPair fuel])
        else node fuel false false
      return item :: (← flowItems fuel false start)

def flowPair : Nat → Reading (Node × Node)
  | 0 => return (.cut, .cut)
  | fuel + 1 => do
    match ← next? with
    | none => return (.cut, .cut)
    | some token =>
      let key ←
        if [Token.Kind.value, .flowEntry, .flowSequenceEnd].contains token.kind then do
          pass
          pure (Node.empty token.stop)
        else node fuel false false
      return (key, ← flowValue fuel .flowSequenceEnd)

def flowValue : Nat → Token.Kind → Reading Node
  | 0, _ => return .cut
  | fuel + 1, close => do
    match ← next? with
    | none => return .cut
    | some token =>
      match token.kind with
      | .value => pass; part fuel false false [.flowEntry, close] none
      | _ => return .empty token.start

def flowEntries : Nat → (first : Bool) → Mark → Reading (List (Node × Node))
  | 0, _, _ => return [(.cut, .cut)]
  | fuel + 1, first, start => do
    match ← flowPart? first .flowMappingEnd "did not find expected ',' or '\x7d'"
        ("while parsing a flow mapping", start) with
    | none => return [(.cut, .cut)]
    | some none => return []
    | some (some token) =>
      let entry ←
        if token.kind = .key then do
          pass
          let key ← part fuel false false [.value, .flowEntry, .flowMappingEnd] none
          pure (key, ← flowValue fuel .flowMappingEnd)
        else do
          let key ← node fuel false false
          match ← next? with
          | none => pure (key, Node.cut)
          | some token => pure (key, Node.empty token.start)
      return entry :: (← flowEntries fuel false start)

end

/-- Passes directives; `version` tells whether there has been one of the version. -/
def directives : Nat → (version : Bool) → Reading Unit
  | 0, _ => return
  | fuel + 1, version => do
    match ← next? with
    | none => return
    | some token =>
      match token.kind with
      | .version major minor =>
        if version then refuse "found duplicate %YAML directive" token.start none
        else if major ≠ 1 ∨ (minor ≠ 1 ∧ minor ≠ 2) then
          refuse "found incompatible YAML document" token.start none
        else
          pass
          directives fuel true
      | .tagDirective handle text =>
        if ((← get).handles.lookup handle).isSome then
          refuse "found duplicate %TAG directive" token.start none
        else
          modify fun r => { r with handles := (handle, text) :: r.handles }
          pass
          directives fuel version
      | _ => return

def standardHandles : List (String × String) :=
  [("!", "!"), ("!!", "tag:yaml.org,2002:")]

def useStandardHandles : Reading Unit :=
  modify fun r => { r with handles := r.handles ++ standardHandles }

/-- The tokens in front of which a document ends. -/
def endsDocument : Token.Kind → Bool
  | .version _ _ | .tagDirective _ _ | .documentStart | .documentEnd | .streamEnd => true
  | _ => false

def documentRoot (fuel : Nat) : Reading Node := do
  match ← next? with
  | none => return .cut
  | some token =>
    if endsDocument token.kind then return .empty token.start else node fuel true false

def root? (fuel : Nat) : Reading (Option Node) := do
  match ← next? with
  | none => return some .cut
  | some token =>
    match token.kind with
    | .streamEnd => return none
    | .version _ _ | .tagDirective _ _ | .documentStart =>
      directives fuel false
      useStandardHandles
      match ← next? with
      | none => return some .cut
      | some token =>
        if token.kind = .documentStart then pass; documentRoot fuel
        else
          refuse "did not find expected <document start>" token.start none
          return some .cut
    | _ => useStandardHandles; node fuel true false

def hasMore (tokens : List Token) : Bool :=
  match (tokens.dropWhile (·.kind == .documentEnd)).head? with
  | some token => token.kind != .streamEnd
  | none => true

/-- Looks for what is behind the root: what is wrong there matters only once the root is read. -/
def finish : Reading Unit := do
  match ← next? with
  | none => return
  | some _ => if hasMore (← get).tokens then stop .severalDocuments

end Reading

def Content.ofText (text : List Char) : Content :=
  let stream := TokenStream.ofText text
  let read : Reading (Option Node) := do
    let root ← Reading.root? (4 * stream.tokens.length + 4)
    if root.isSome then Reading.finish
    return root
  let (root, reader) := read.run { tokens := stream.tokens, fault := stream.fault }
  { root, anchored := reader.anchored.toList, problem := reader.problem }

end SchemaCheck.Yaml

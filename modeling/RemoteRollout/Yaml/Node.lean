import RemoteRollout.Yaml.TokenStream

/-!
# Nodes

The nodes of a document, built from its tokens. Where the tokens break off, or do not fit, the
tree is cut: it holds what came before that place, and a `cut` node in it. Anchors are numbered in
the order in which their names first occur, and an alias holds the number of its anchor.
-/

namespace RemoteRollout.Yaml

/-- A node of a document. -/
inductive Node where
  | scalar (mark : Mark) (style : Style) (tag : Option String) (anchor : Option Nat) (text : String)
  | sequence (mark : Mark) (anchor : Option Nat) (items : List Node)
  | mapping (mark : Mark) (anchor : Option Nat) (entries : List (Node × Node))
  /-- An alias of the node with this anchor. -/
  | reference (anchor : Nat)
  /-- Nothing could be read from here on. -/
  | cut
deriving Repr, Inhabited

/-- What has been read of a document. -/
structure Progress where
  tokens : List Token
  /-- What the handles of tags stand for. -/
  handles : List (String × String)
  /-- The anchors by name. -/
  anchors : List (String × Nat) := []
deriving Repr, Inhabited

/-- The progress after the first token. -/
def Progress.skip (p : Progress) : Progress := { p with tokens := p.tokens.tail }

/-- The kind of the next token. -/
def Progress.kind? (p : Progress) : Option TokenKind := p.tokens.head?.map Token.kind

/-- The place of the next token. -/
def Progress.mark (p : Progress) : Mark :=
  match p.tokens with
  | [] => {}
  | t :: _ => t.start

namespace Node

/-- A scalar that is not written. -/
def empty (m : Mark) : Node := scalar m .plain none none ""

/-- The number of the anchor with this name, which is the number of names so far, and the progress
after it. -/
def withAnchor (p : Progress) : Option String → Option Nat × Progress
  | none => (none, p)
  | some name =>
    let number := p.anchors.length
    let others := p.anchors.filter (·.1 != name)
    (some number, { p with anchors := (name, number) :: others })

/-! ## Properties -/

/-- The anchor and the tag before a node. -/
structure Properties where
  anchor : Option String := none
  tag : Option (String × String) := none
  /-- Where the first of them begins. -/
  start : Option Mark := none

/-- The properties at the front, at most one of each kind, and what follows them. -/
def properties (p : Progress) : Properties × Progress :=
  match p.tokens with
  | ⟨.anchor name, m, _⟩ :: ⟨.tag handle suffix, _, _⟩ :: rest
  | ⟨.tag handle suffix, m, _⟩ :: ⟨.anchor name, _, _⟩ :: rest =>
    ({ anchor := some name, tag := some (handle, suffix), start := some m },
      { p with tokens := rest })
  | ⟨.anchor name, m, _⟩ :: rest =>
    ({ anchor := some name, start := some m }, { p with tokens := rest })
  | ⟨.tag handle suffix, m, _⟩ :: rest =>
    ({ tag := some (handle, suffix), start := some m }, { p with tokens := rest })
  | _ => ({}, p)

/-- The full text of a tag; nothing if its handle is not known. -/
def tagOf? (p : Progress) : Option (String × String) → Option (Option String)
  | none => some none
  | some (handle, suffix) =>
    if handle = "" then some (some suffix)
    else (p.handles.lookup handle).map fun expansion => some (expansion ++ suffix)

/-! ## Collections -/

/-- A node and the progress after it, unless the document is cut in it. -/
abbrev Built := Node × Option Progress

/-- Items and the progress after them, unless the document is cut in them. -/
abbrev BuiltItems := List Node × Option Progress

/-- Entries and the progress after them, unless the document is cut in them. -/
abbrev BuiltEntries := List (Node × Node) × Option Progress

/-- The items after one, or nothing if the document is cut in it. -/
def andItems (built : Built) (more : Progress → BuiltItems) : BuiltItems :=
  match built with
  | (node, none) => ([node], none)
  | (node, some p) => let (items, p) := more p; (node :: items, p)

/-- The entries after one, or nothing if the document is cut in it. -/
def andEntries (key : Node) (value : Built) (more : Progress → BuiltEntries) : BuiltEntries :=
  match value with
  | (node, none) => ([(key, node)], none)
  | (node, some p) => let (entries, p) := more p; ((key, node) :: entries, p)

/-- The next token is one of these. -/
def isNext (p : Progress) (kinds : List TokenKind) : Bool :=
  match p.kind? with
  | some kind => kinds.contains kind
  | none => false

mutual

/-- The node that begins here. A block collection may begin only where `block` says so, and a
sequence at the column of its mapping only where `indentless` says so. -/
def build : Nat → (block indentless : Bool) → Progress → Built
  | 0, _, _, _ => (cut, none)
  | fuel + 1, block, indentless, p =>
    match p.tokens with
    | ⟨.reference name, _, _⟩ :: rest =>
      match p.anchors.lookup name with
      | some number => (reference number, some { p with tokens := rest })
      | none => (cut, none)
    | _ =>
      let (props, p) := properties p
      match tagOf? p props.tag, p.tokens with
      | none, _ | _, [] => (cut, none)
      | some tag, token :: rest =>
        let m := props.start.getD token.start
        let (anchor, q) := withAnchor p props.anchor
        let inside : Progress := { q with tokens := rest }
        let sequenceOf (built : BuiltItems) : Built := (sequence m anchor built.1, built.2)
        let mappingOf (built : BuiltEntries) : Built := (mapping m anchor built.1, built.2)
        match token.kind with
        | .blockEntry =>
          if indentless then sequenceOf (buildIndentless fuel q)
          else if props.start.isSome then (scalar m .plain tag anchor "", some q)
          else (cut, none)
        | .scalar style text =>
          (scalar m style (if tag = some "!" then none else tag) anchor text, some inside)
        | .flowSequenceStart => sequenceOf (buildFlowItems fuel true inside)
        | .flowMappingStart => mappingOf (buildFlowEntries fuel true inside)
        | kind =>
          if block ∧ kind = .blockSequenceStart then sequenceOf (buildItems fuel inside)
          else if block ∧ kind = .blockMappingStart then mappingOf (buildEntries fuel inside)
          else if props.start.isSome then (scalar m .plain tag anchor "", some q)
          else (cut, none)

/-- The items of a block sequence. -/
def buildItems : Nat → Progress → BuiltItems
  | 0, _ => ([cut], none)
  | fuel + 1, p =>
    match p.tokens with
    | ⟨.blockEntry, _, stop⟩ :: next :: rest =>
      let p : Progress := { p with tokens := next :: rest }
      let item : Built :=
        if isNext p [.blockEntry, .blockEnd] then (empty stop, some p)
        else build fuel true false p
      andItems item (buildItems fuel)
    | ⟨.blockEnd, _, _⟩ :: rest => ([], some { p with tokens := rest })
    | _ => ([cut], none)

/-- The items of a sequence at the column of its mapping. -/
def buildIndentless : Nat → Progress → BuiltItems
  | 0, _ => ([cut], none)
  | fuel + 1, p =>
    match p.tokens with
    | [] => ([cut], none)
    | ⟨.blockEntry, _, stop⟩ :: rest =>
      let p : Progress := { p with tokens := rest }
      let item : Built :=
        if rest.isEmpty then (cut, none)
        else if isNext p [.blockEntry, .key, .value, .blockEnd] then (empty stop, some p)
        else build fuel true false p
      andItems item (buildIndentless fuel)
    | _ => ([], some p)

/-- The entries of a block mapping. -/
def buildEntries : Nat → Progress → BuiltEntries
  | 0, _ => ([(cut, cut)], none)
  | fuel + 1, p =>
    match p.tokens with
    | ⟨.key, _, stop⟩ :: next :: rest =>
      let p : Progress := { p with tokens := next :: rest }
      let key : Built :=
        if isNext p [.key, .value, .blockEnd] then (empty stop, some p)
        else build fuel true true p
      match key with
      | (key, none) => ([(key, cut)], none)
      | (key, some p) => andEntries key (buildValue fuel p) (buildEntries fuel)
    | ⟨.blockEnd, _, _⟩ :: rest => ([], some { p with tokens := rest })
    | _ => ([(cut, cut)], none)

/-- The value after a key of a block mapping. -/
def buildValue : Nat → Progress → Built
  | 0, _ => (cut, none)
  | fuel + 1, p =>
    match p.tokens with
    | [] => (cut, none)
    | ⟨.value, _, stop⟩ :: rest =>
      let p : Progress := { p with tokens := rest }
      if rest.isEmpty then (cut, none)
      else if isNext p [.key, .value, .blockEnd] then (empty stop, some p)
      else build fuel true true p
    | token :: _ => (empty token.start, some p)

/-- The items of a sequence in brackets. -/
def buildFlowItems : Nat → Bool → Progress → BuiltItems
  | 0, _, _ => ([cut], none)
  | fuel + 1, first, p =>
    if isNext p [.flowSequenceEnd] then ([], some p.skip)
    else if !first && !isNext p [.flowEntry] then ([cut], none)
    else
      let p := if first then p else p.skip
      match p.kind? with
      | some .flowSequenceEnd => ([], some p.skip)
      | some .key => andItems (buildPair fuel p.mark p.skip) (buildFlowItems fuel false)
      | _ => andItems (build fuel false false p) (buildFlowItems fuel false)

/-- A single entry among the items of a sequence in brackets, after its key token. -/
def buildPair : Nat → Mark → Progress → Built
  | 0, _, _ => (cut, none)
  | fuel + 1, m, p =>
    let key : Built :=
      match p.tokens with
      | [] => (cut, none)
      | token :: _ =>
        if isNext p [.value, .flowEntry, .flowSequenceEnd] then (empty token.stop, some p.skip)
        else build fuel false false p
    match key with
    | (key, none) => (mapping m none [(key, cut)], none)
    | (key, some p) =>
      let value : Built :=
        match p.tokens with
        | [] => (cut, none)
        | ⟨.value, _, _⟩ :: [] => (cut, none)
        | ⟨.value, _, _⟩ :: _ =>
          if isNext p.skip [.flowEntry, .flowSequenceEnd] then (empty p.skip.mark, some p.skip)
          else build fuel false false p.skip
        | token :: _ => (empty token.start, some p)
      match value with
      | (value, some p) =>
        if p.tokens.isEmpty then (mapping m none [(key, value), (cut, cut)], none)
        else (mapping m none [(key, value)], some p)
      | (value, none) => (mapping m none [(key, value)], none)

/-- The entries of a mapping in brackets. -/
def buildFlowEntries : Nat → Bool → Progress → BuiltEntries
  | 0, _, _ => ([(cut, cut)], none)
  | fuel + 1, first, p =>
    if isNext p [.flowMappingEnd] then ([], some p.skip)
    else if !first && !isNext p [.flowEntry] then ([(cut, cut)], none)
    else
      let p := if first then p else p.skip
      match p.kind? with
      | some .flowMappingEnd => ([], some p.skip)
      | some .key =>
        let p := p.skip
        let key : Built :=
          if isNext p [.value, .flowEntry, .flowMappingEnd] then (empty p.mark, some p)
          else build fuel false false p
        match key with
        | (key, none) => ([(key, cut)], none)
        | (key, some p) => andEntries key (buildFlowValue fuel p) (buildFlowEntries fuel false)
      | _ =>
        match build fuel false false p with
        | (key, none) => ([(key, cut)], none)
        | (key, some p) =>
          let value : Built :=
            if p.tokens.isEmpty then (cut, none) else (empty p.mark, some p)
          andEntries key value (buildFlowEntries fuel false)

/-- The value after a key of a mapping in brackets. -/
def buildFlowValue : Nat → Progress → Built
  | 0, _ => (cut, none)
  | fuel + 1, p =>
    match p.tokens with
    | [] => (cut, none)
    | ⟨.value, _, _⟩ :: [] => (cut, none)
    | ⟨.value, _, _⟩ :: _ =>
      if isNext p.skip [.flowEntry, .flowMappingEnd] then (empty p.skip.mark, some p.skip)
      else build fuel false false p.skip
    | token :: _ => (empty token.start, some p)

end

/-! ## Anchors -/

mutual

/-- The nodes that aliases can stand for, in the order of the text. -/
def anchored : Node → List (Nat × Node)
  | scalar m style tag (some n) text => [(n, scalar m style tag (some n) text)]
  | sequence m (some n) items => (n, sequence m (some n) items) :: anchoredItems items
  | sequence _ none items => anchoredItems items
  | mapping m (some n) entries => (n, mapping m (some n) entries) :: anchoredEntries entries
  | mapping _ none entries => anchoredEntries entries
  | _ => []

/-- The nodes among items that aliases can stand for. -/
def anchoredItems : List Node → List (Nat × Node)
  | [] => []
  | node :: rest => anchored node ++ anchoredItems rest

/-- The nodes among entries that aliases can stand for. -/
def anchoredEntries : List (Node × Node) → List (Nat × Node)
  | [] => []
  | (key, value) :: rest => anchored key ++ anchored value ++ anchoredEntries rest

end

mutual

/-- The document is cut somewhere in the node. -/
def isCut : Node → Bool
  | cut => true
  | sequence _ _ items => itemsCut items
  | mapping _ _ entries => entriesCut entries
  | _ => false

/-- The document is cut somewhere in the items. -/
def itemsCut : List Node → Bool
  | [] => false
  | node :: rest => isCut node || itemsCut rest

/-- The document is cut somewhere in the entries. -/
def entriesCut : List (Node × Node) → Bool
  | [] => false
  | (key, value) :: rest => isCut key || isCut value || entriesCut rest

end

end Node

/-! ## Documents -/

/-- The document at the front of a text. -/
structure Document where
  root : Node
  /-- Nothing but marks of ended documents follows, up to the end of the text. -/
  ended : Bool
deriving Repr, Inhabited

namespace Document

/-- What the usual handles of tags stand for. -/
def defaultHandles : List (String × String) := [("!", "!"), ("!!", "tag:yaml.org,2002:")]

/-- The directives at the front: what the handles of tags stand for, whether a version was given,
and what follows; nothing if one is repeated or the version is not known. -/
def directives : List (String × String) → Bool → List Token →
    Option (List (String × String) × List Token)
  | handles, versioned, ⟨.versionDirective major minor, _, _⟩ :: rest =>
    if versioned || major != 1 || (minor != 1 && minor != 2) then none
    else directives handles true rest
  | handles, versioned, ⟨.tagDirective handle expansion, _, _⟩ :: rest =>
    if (handles.lookup handle).isSome then none
    else directives ((handle, expansion) :: handles) versioned rest
  | handles, _, rest => some (handles ++ defaultHandles, rest)

/-- The tokens only end documents and the text. -/
def onlyEnds : List Token → Bool
  | ⟨.documentEnd, _, _⟩ :: rest => onlyEnds rest
  | ⟨.streamEnd, _, _⟩ :: _ => true
  | _ => false

/-- The document with this content, of which the progress after it is known. -/
def ofBuilt : Node.Built → Document
  | (node, some p) => { root := node, ended := onlyEnds p.tokens }
  | (node, none) => { root := node, ended := false }

/-- A document of which nothing can be read. -/
def unreadable : Document := { root := .cut, ended := false }

/-- The document in these tokens. Every node takes a token or is inside of one that does. -/
def ofTokens (tokens : List Token) : Document :=
  let fuel := 4 * tokens.length + 4
  match tokens with
  | ⟨.streamEnd, m, _⟩ :: _ => { root := .empty m, ended := true }
  | _ =>
    match directives [] false tokens with
    | none => unreadable
    | some (handles, rest) =>
      match rest with
      | ⟨.documentStart, _, _⟩ :: next :: rest =>
        let p : Progress := { tokens := next :: rest, handles }
        if Node.isNext p [.documentStart, .documentEnd, .streamEnd] ||
            (match next.kind with
              | .versionDirective .. | .tagDirective .. => true
              | _ => false) then
          ofBuilt (.empty next.start, some p)
        else ofBuilt (Node.build fuel true false p)
      | _ =>
        if rest.length = tokens.length then
          ofBuilt (Node.build fuel true false { tokens, handles })
        else unreadable

/-- The document at the front of a text. -/
def ofChars (cs : List Char) : Document := ofTokens (tokens cs)

/-- The node that an alias stands for: of anchors with one number the last counts. -/
def target (d : Document) (number : Nat) : Node :=
  match (d.root.anchored.reverse).lookup number with
  | some node => node
  | none => .cut

/-- The node, or the one it is an alias of. -/
def resolve (d : Document) : Node → Node
  | .reference number => d.target number
  | node => node

end Document

end RemoteRollout.Yaml

import Tagline.Yaml.Token

/-!
# YAML documents as trees

The tokens of a text form a tree of nodes: scalars, sequences and mappings, each
with an optional tag, and aliases that stand for a node named by an anchor. A text
holds at most one document (`Yaml.document`).

An anchor is known by a number, the count of the names in use before it; a name that
is given again leaves the old number behind and takes a new one. So two nodes may have one
number, and the one that begins later is meant.

Before the document there may be directives, which say what the handles of tags stand for. The
sign `!` alone is a tag like any other, and stays on a scalar too: `! 5` is not the number
`5` but a node of its own tag.
-/

namespace Tagline

namespace Yaml

/-- A node of a document. -/
inductive Node where
  | scalar (tag : Option Text) (style : Style) (text : Text)
  | sequence (tag : Option Text) (items : List Node)
  | mapping (tag : Option Text) (entries : List (Node × Node))
  | alias (number : Nat)
  deriving Repr

/-- The node that is not written. -/
def Node.empty : Node := .scalar none .plain []

/-- A document: its root, if there is anything at all, and the nodes with an anchor. -/
structure Document where
  root : Option Node
  anchors : List (Nat × Node)
  deriving Repr

/-- The number of an anchor, and how many anchors begin before it. -/
structure Anchor where
  number : Nat
  order : Nat

/-- The state of building a tree: the tokens that are left, what the handles of tags stand
for, the numbers of the anchors that may be referred to, how many anchors have begun, and
the nodes that have them. -/
structure Builder where
  tokens : List Token
  handles : List (Text × Text) := []
  names : List (Text × Nat) := []
  begun : Nat := 0
  anchors : List (Anchor × Node) := []

namespace Builder

/-- Drops the first token. -/
def next (b : Builder) : Builder := { b with tokens := b.tokens.tail }

/-- The full name of a tag. What a directive says of a handle goes before its usual
meaning. -/
def tagName (b : Builder) (handle suffix : Text) : Except Error Text :=
  match handle, b.handles.lookup handle with
  | [], _ => .ok suffix
  | _, some meaning => .ok (meaning ++ suffix)
  | ['!'], none => .ok ('!' :: suffix)
  | ['!', '!'], none => .ok ("tag:yaml.org,2002:".toList ++ suffix)
  | _, none => .error .unknownHandle

/-- Gives a new number to a name. -/
def bind (b : Builder) (name : Text) : Anchor × Builder :=
  (⟨b.names.length, b.begun⟩,
    { b with
      names := (name, b.names.length) :: b.names.filter (fun p => p.1 != name)
      begun := b.begun + 1 })

/-- Notes which node has an anchor. -/
def define (b : Builder) (anchor : Option Anchor) (n : Node) : Builder :=
  match anchor with
  | some a => { b with anchors := (a, n) :: b.anchors }
  | none => b

/-- The nodes by the numbers of their anchors, those that begin later first. -/
def anchorTable (b : Builder) : List (Nat × Node) :=
  (b.anchors.mergeSort (fun x y => y.1.order ≤ x.1.order)).map (fun x => (x.1.number, x.2))

/-- Reads the anchor and the tag before a node, in either order. -/
def properties (b : Builder) : Except Error (Option Anchor × Option Text × Builder) :=
  match b.tokens with
  | .anchor name :: .tag handle suffix :: ts => do
    let tag ← b.tagName handle suffix
    let (k, b) := { b with tokens := ts }.bind name
    pure (some k, some tag, b)
  | .tag handle suffix :: .anchor name :: ts => do
    let tag ← b.tagName handle suffix
    let (k, b) := { b with tokens := ts }.bind name
    pure (some k, some tag, b)
  | .anchor name :: ts =>
    let (k, b) := { b with tokens := ts }.bind name
    .ok (some k, none, b)
  | .tag handle suffix :: ts => do
    pure (none, some (← b.tagName handle suffix), { b with tokens := ts })
  | _ => .ok (none, none, b)

/-- Whether a value or key of a block mapping is left out before the given tokens. -/
def omittedInMapping : List Token → Bool
  | .key :: _ => true
  | .value :: _ => true
  | .blockEnd :: _ => true
  | _ => false

/-- Whether an entry of a block sequence is left out before the given tokens. -/
def omittedInSequence : List Token → Bool
  | .blockEntry :: _ => true
  | .blockEnd :: _ => true
  | _ => false

/-- Whether a key or value in braces is left out before the given tokens. -/
def omittedInBraces : List Token → Bool
  | .value :: _ => true
  | .flowEntry :: _ => true
  | .flowMappingEnd :: _ => true
  | _ => false

/-- Whether an entry in brackets is over before the given tokens. -/
def endsEntryInBrackets : List Token → Bool
  | .flowEntry :: _ => true
  | .flowSequenceEnd :: _ => true
  | _ => false

/-- Whether a key in brackets is left out before the given tokens. -/
def omittedInBrackets : List Token → Bool
  | .value :: _ => true
  | ts => endsEntryInBrackets ts

mutual

/-- Reads a node. Block collections are allowed if `block` holds, and a sequence at the
indentation of its key if `atKey` holds. -/
def node (block atKey : Bool) : (fuel : Nat) → Builder → Except Error (Node × Builder)
  | 0, _ => .error .tooDeep
  | fuel + 1, b =>
    match b.tokens with
    | .alias name :: ts =>
      match b.names.lookup name with
      | some k => .ok (.alias k, { b with tokens := ts })
      | none => .error .unknownAlias
    | _ => do
      let (anchor, tag, b) ← b.properties
      match b.tokens with
      | .scalar style text :: ts =>
        let n := Node.scalar tag style text
        pure (n, { b with tokens := ts }.define anchor n)
      | .flowSequenceStart :: ts =>
        let (items, b) ← brackets true fuel { b with tokens := ts }
        pure (.sequence tag items, b.define anchor (.sequence tag items))
      | .flowMappingStart :: ts =>
        let (entries, b) ← braces true fuel { b with tokens := ts }
        pure (.mapping tag entries, b.define anchor (.mapping tag entries))
      | t :: ts =>
        if atKey && t == .blockEntry then
          let (items, b) ← entriesAtKey fuel b
          pure (.sequence tag items, b.define anchor (.sequence tag items))
        else if block && t == .blockSequenceStart then
          let (items, b) ← blockSequence fuel { b with tokens := ts }
          pure (.sequence tag items, b.define anchor (.sequence tag items))
        else if block && t == .blockMappingStart then
          let (entries, b) ← blockMapping fuel { b with tokens := ts }
          pure (.mapping tag entries, b.define anchor (.mapping tag entries))
        else if anchor.isSome || tag.isSome then
          let n := Node.scalar tag .plain []
          pure (n, b.define anchor n)
        else .error .unexpectedToken
      | [] =>
        if anchor.isSome || tag.isSome then
          let n := Node.scalar tag .plain []
          pure (n, b.define anchor n)
        else .error .unexpectedToken

/-- Reads the entries of a block sequence up to its end. -/
def blockSequence : (fuel : Nat) → Builder → Except Error (List Node × Builder)
  | 0, _ => .error .tooDeep
  | fuel + 1, b =>
    match b.tokens with
    | .blockEnd :: ts => .ok ([], { b with tokens := ts })
    | .blockEntry :: ts => do
      let (n, b) ←
        if omittedInSequence ts then pure (.empty, { b with tokens := ts })
        else node true false fuel { b with tokens := ts }
      let (ns, b) ← blockSequence fuel b
      pure (n :: ns, b)
    | _ => .error .unexpectedToken

/-- Reads the entries of a sequence that stands at the indentation of its key. -/
def entriesAtKey : (fuel : Nat) → Builder → Except Error (List Node × Builder)
  | 0, _ => .error .tooDeep
  | fuel + 1, b =>
    match b.tokens with
    | .blockEntry :: ts => do
      let (n, b) ←
        if omittedInSequence ts || omittedInMapping ts then pure (.empty, { b with tokens := ts })
        else node true false fuel { b with tokens := ts }
      let (ns, b) ← entriesAtKey fuel b
      pure (n :: ns, b)
    | _ => .ok ([], b)

/-- Reads the entries of a block mapping up to its end. -/
def blockMapping : (fuel : Nat) → Builder → Except Error (List (Node × Node) × Builder)
  | 0, _ => .error .tooDeep
  | fuel + 1, b =>
    match b.tokens with
    | .blockEnd :: ts => .ok ([], { b with tokens := ts })
    | .key :: ts => do
      let (k, b) ←
        if omittedInMapping ts then pure (.empty, { b with tokens := ts })
        else node true true fuel { b with tokens := ts }
      let (v, b) ← match b.tokens with
        | .value :: ts =>
          if omittedInMapping ts then pure (Node.empty, { b with tokens := ts })
          else node true true fuel { b with tokens := ts }
        | _ => pure (.empty, b)
      let (es, b) ← blockMapping fuel b
      pure ((k, v) :: es, b)
    | _ => .error .unexpectedToken

/-- Reads the entries in brackets up to the closing one. A `,` stands before each entry but
the first. An entry `key: value` is a mapping of its own. Where a key is announced and left
out, so is the token after it. -/
def brackets (first : Bool) : (fuel : Nat) → Builder → Except Error (List Node × Builder)
  | 0, _ => .error .tooDeep
  | fuel + 1, b => do
    let b ← match b.tokens with
      | .flowSequenceEnd :: _ => pure b
      | .flowEntry :: ts => if first then pure b else pure { b with tokens := ts }
      | _ => if first then pure b else .error .unexpectedToken
    match b.tokens with
    | .flowSequenceEnd :: ts => pure ([], { b with tokens := ts })
    | .key :: ts =>
      let (k, b) ←
        if omittedInBrackets ts then pure (.empty, { b with tokens := ts.tail })
        else node false false fuel { b with tokens := ts }
      let (v, b) ← match b.tokens with
        | .value :: ts =>
          if endsEntryInBrackets ts then pure (Node.empty, { b with tokens := ts })
          else node false false fuel { b with tokens := ts }
        | _ => pure (.empty, b)
      let (ns, b) ← brackets false fuel b
      pure (.mapping none [(k, v)] :: ns, b)
    | _ =>
      let (n, b) ← node false false fuel b
      let (ns, b) ← brackets false fuel b
      pure (n :: ns, b)

/-- Reads the entries in braces up to the closing one. A `,` stands before each entry but
the first. -/
def braces (first : Bool) : (fuel : Nat) → Builder → Except Error (List (Node × Node) × Builder)
  | 0, _ => .error .tooDeep
  | fuel + 1, b => do
    let b ← match b.tokens with
      | .flowMappingEnd :: _ => pure b
      | .flowEntry :: ts => if first then pure b else pure { b with tokens := ts }
      | _ => if first then pure b else .error .unexpectedToken
    match b.tokens with
    | .flowMappingEnd :: ts => pure ([], { b with tokens := ts })
    | .key :: ts =>
      let (k, b) ←
        if omittedInBraces ts then pure (.empty, { b with tokens := ts })
        else node false false fuel { b with tokens := ts }
      let (v, b) ← match b.tokens with
        | .value :: ts =>
          if omittedInBraces ts then pure (Node.empty, { b with tokens := ts })
          else node false false fuel { b with tokens := ts }
        | _ => pure (.empty, b)
      let (es, b) ← braces false fuel b
      pure ((k, v) :: es, b)
    | _ =>
      let (k, b) ← node false false fuel b
      let (es, b) ← braces false fuel b
      pure ((k, .empty) :: es, b)

end

/-- Reads the directives before a document, after those on versions that were read. -/
def directives (versioned : Bool) (b : Builder) : List Token → Except Error Builder
  | .version major minor :: ts =>
    if versioned || major != 1 || !(minor == 1 || minor == 2) then .error .invalidDirective
    else directives true b ts
  | .handle name meaning :: ts =>
    if (b.handles.lookup name).isSome then .error .invalidDirective
    else directives versioned { b with handles := (name, meaning) :: b.handles } ts
  | ts => .ok { b with tokens := ts }

/-- Whether a token is a directive. -/
def isDirective : Token → Bool
  | .version _ _ => true
  | .handle _ _ => true
  | _ => false

/-- Whether the root of a document is left out before the given tokens. -/
def omittedRoot : List Token → Bool
  | [] => true
  | .documentStart :: _ => true
  | .documentEnd :: _ => true
  | t :: _ => isDirective t

/-- Reads the root of a document. After `---` it may be left out. Directives must be followed
by `---`. -/
def root (b : Builder) : Except Error (Option Node × Builder) := do
  let directed := b.tokens.head?.any isDirective
  let b ← directives false b b.tokens
  let fuel := 2 * b.tokens.length + 2
  match b.tokens with
  | .documentStart :: ts =>
    if omittedRoot ts then pure (some .empty, { b with tokens := ts })
    else
      let (n, b) ← node true false fuel { b with tokens := ts }
      pure (some n, b)
  | ts =>
    if directed then .error .invalidDirective
    else if ts.isEmpty then pure (none, b)
    else
      let (n, b) ← node true false fuel b
      pure (some n, b)

end Builder

/-- The tree of a text. After the document there may be end marks and nothing else. -/
def document (s : Text) : Except Error Document := do
  let (root, b) ← Builder.root { tokens := ← tokens s }
  if (b.tokens.dropWhile (· == .documentEnd)).isEmpty then pure ⟨root, b.anchorTable⟩
  else .error .secondDocument

mutual

/-- How many marks a reader of nodes meets: one for each scalar and alias, and two for each
collection. -/
def Node.size : Node → Nat
  | .scalar _ _ _ => 1
  | .sequence _ items => 2 + sizeOfItems items
  | .mapping _ entries => 2 + sizeOfEntries entries
  | .alias _ => 1

/-- The marks of a list of nodes. -/
def Node.sizeOfItems : List Node → Nat
  | [] => 0
  | n :: ns => n.size + sizeOfItems ns

/-- The marks of the entries of a mapping. -/
def Node.sizeOfEntries : List (Node × Node) → Nat
  | [] => 0
  | (k, v) :: es => k.size + v.size + sizeOfEntries es

end

end Yaml

end Tagline

import Tagline.Yaml.Scalar

/-!
# The tokens of a YAML text

A YAML text is cut into tokens from left to right. Indentation becomes tokens of its
own: a block collection opens where a key or entry stands deeper than what is around
it and closes where a later line stands less deep.

A key is known only by the `:` after it, so a token that may turn out to be a key is
remembered (`Yaml.KeyPlace`), one for each level of nested flow collections, and the
tokens that announce the key are put in front of it when its `:` comes. A token can be a key
only on its own line and within 1024 bytes.

* `Yaml.Reader.dispatch` reads one token.
* `Yaml.tokens` is the list of tokens of a text.
-/

namespace Tagline

namespace Yaml

/-- A token. -/
inductive Token where
  /-- The directive that says which version of YAML is meant. -/
  | version (major minor : Nat)
  /-- The directive that says what the handle of a tag stands for. -/
  | handle (name meaning : Text)
  | documentStart
  | documentEnd
  | blockSequenceStart
  | blockMappingStart
  | blockEnd
  | flowSequenceStart
  | flowSequenceEnd
  | flowMappingStart
  | flowMappingEnd
  | blockEntry
  | flowEntry
  | key
  | value
  | alias (name : Text)
  | anchor (name : Text)
  | tag (handle suffix : Text)
  | scalar (style : Style) (text : Text)
  deriving DecidableEq, Repr

/-- A place where a key may begin. -/
structure KeyPlace where
  /-- Whether something else than a key would break the indentation. -/
  required : Bool
  /-- How many tokens come before the key. -/
  number : Nat
  place : Place
  /-- How many bytes are left at the key. -/
  remaining : Nat
  deriving DecidableEq, Repr

/-- The number of bytes that a text takes up. -/
def byteLength (s : Text) : Nat := s.foldl (fun n c => n + c.utf8Size) 0

/-- The state of reading: what is left of the text, and what was read. -/
structure Reader where
  rest : Text
  place : Place := ⟨0, 0⟩
  /-- The tokens so far, the last one first. -/
  read : List Token := []
  /-- The indentation of the innermost block collection, `-1` outside all of them. -/
  indent : Int := -1
  /-- The indentations around it. -/
  outer : List Int := []
  /-- Whether a key may begin here. -/
  keyAllowed : Bool := true
  /-- The possible key of the block context or the innermost flow collection. -/
  candidate : Option KeyPlace := none
  /-- The possible keys around it, one for each level of flow collections. -/
  candidates : List (Option KeyPlace) := []
  deriving DecidableEq, Repr

namespace Reader

/-- Whether the reader is inside a flow collection. -/
def inFlow (r : Reader) : Bool := !r.candidates.isEmpty

/-- Adds a token. -/
def emit (r : Reader) (t : Token) : Reader := { r with read := t :: r.read }

/-- Adds a token that came `number` tokens after the start. -/
def emitAt (r : Reader) (number : Nat) (t : Token) : Reader :=
  let later := r.read.length - number
  { r with read := r.read.take later ++ t :: r.read.drop later }

/-- Moves past `n` characters of the line. -/
def skip (n : Nat) (r : Reader) : Reader :=
  { r with rest := r.rest.drop n, place := r.place.skip n }

/-! ### Indentation -/

/-- Closes the block collections that are indented deeper than a column. -/
def closeFrom (read : List Token) (indent column : Int) : List Int → List Token × Int × List Int
  | [] => (read, indent, [])
  | i :: is =>
    if column < indent then closeFrom (.blockEnd :: read) i column is else (read, indent, i :: is)

/-- Closes the block collections that are indented deeper than a column. Flow
collections take no notice of indentation. -/
def unindent (r : Reader) (column : Int) : Reader :=
  if r.inFlow then r
  else
    let (read, indent, outer) := closeFrom r.read r.indent column r.outer
    { r with read := read, indent := indent, outer := outer }

/-- Opens a block collection at a column that is deeper than the present one. -/
def indentTo (r : Reader) (column : Nat) (number : Nat) (t : Token) : Reader :=
  if r.inFlow || column ≤ r.indent then r
  else { r.emitAt number t with indent := column, outer := r.indent :: r.outer }

/-! ### Keys -/

/-- Forgets the possible key, which must not be one that is required. -/
def dropKey (r : Reader) : Except Error Reader :=
  match r.candidate with
  | some k => if k.required then .error .unfinishedKey else .ok { r with candidate := none }
  | none => .ok r

/-- Remembers that a key may begin here. -/
def saveKey (r : Reader) : Except Error Reader :=
  if r.keyAllowed then do
    let r ← r.dropKey
    let required := !r.inFlow && r.indent == r.place.column
    pure { r with candidate := some ⟨required, r.read.length, r.place, byteLength r.rest⟩ }
  else pure r

/-- A possible key, if its line is still the present one and it is near enough. -/
def refresh (r : Reader) : Option KeyPlace → Except Error (Option KeyPlace)
  | none => .ok none
  | some k =>
    if k.place.line < r.place.line || byteLength r.rest + 1024 < k.remaining then
      if k.required then .error .unfinishedKey else .ok none
    else .ok (some k)

/-- Forgets the possible keys that have become too old. -/
def dropStale (r : Reader) : Except Error Reader := do
  let candidate ← r.refresh r.candidate
  let candidates ← r.candidates.mapM r.refresh
  pure { r with candidate := candidate, candidates := candidates }

/-! ### Between tokens -/

/-- Passes over white space, comments and line ends. A tab is white space only where no
key may begin. A line end makes a key possible, except in a flow collection. A byte order
mark may begin a line, of which it takes up a column. -/
def gapFrom (flow : Bool) (keyAllowed : Bool) (comment : Bool) (here : Place) :
    Text → Bool × Place × Text
  | [] => (keyAllowed, here, [])
  | '\r' :: '\n' :: s => gapFrom flow (keyAllowed || !flow) false here.nextLine s
  | c :: s =>
    if isBreak c then gapFrom flow (keyAllowed || !flow) false here.nextLine s
    else if comment || c == ' ' || (c == '\t' && (flow || !keyAllowed)) ||
        (c == '\ufeff' && here.column == 0) then
      gapFrom flow keyAllowed comment here.next s
    else if c == '#' then gapFrom flow keyAllowed true here.next s
    else (keyAllowed, here, c :: s)

/-- Moves to the next token. -/
def toToken (r : Reader) : Reader :=
  let (keyAllowed, place, rest) := gapFrom r.inFlow r.keyAllowed false r.place r.rest
  { r with keyAllowed := keyAllowed, place := place, rest := rest }

/-! ### Tokens of one or a few characters -/

/-- Reads `---` or `...`. -/
def documentMark (r : Reader) (t : Token) : Except Error Reader := do
  let r ← (r.unindent (-1)).dropKey
  pure (({ r with keyAllowed := false }.skip 3).emit t)

/-- Reads the bracket that opens a flow collection, which may be a key as a whole. -/
def flowStart (r : Reader) (t : Token) : Except Error Reader := do
  let r ← r.saveKey
  pure (({ r with
    candidate := none
    candidates := r.candidate :: r.candidates
    keyAllowed := true }.skip 1).emit t)

/-- Reads the bracket that closes a flow collection. -/
def flowEnd (r : Reader) (t : Token) : Except Error Reader := do
  let r ← r.dropKey
  let r := match r.candidates with
    | [] => r
    | k :: ks => { r with candidate := k, candidates := ks }
  pure (({ r with keyAllowed := false }.skip 1).emit t)

/-- Reads the `,` between two entries of a flow collection. -/
def flowEntry (r : Reader) : Except Error Reader := do
  let r ← r.dropKey
  pure (({ r with keyAllowed := true }.skip 1).emit .flowEntry)

/-- Reads the `-` before an entry of a block sequence. -/
def blockEntry (r : Reader) : Except Error Reader := do
  if !r.inFlow && !r.keyAllowed then .error .misplacedEntry
  let r ← (r.indentTo r.place.column r.read.length .blockSequenceStart).dropKey
  pure (({ r with keyAllowed := true }.skip 1).emit .blockEntry)

/-- Reads the `?` before a key. -/
def explicitKey (r : Reader) : Except Error Reader := do
  if !r.inFlow && !r.keyAllowed then .error .misplacedKey
  let r ← (r.indentTo r.place.column r.read.length .blockMappingStart).dropKey
  pure (({ r with keyAllowed := !r.inFlow }.skip 1).emit .key)

/-- Reads the `:` before a value. If a key may have begun before it, that is a key
now. -/
def mappingValue (r : Reader) : Except Error Reader :=
  match r.candidate with
  | some k =>
    -- The key is announced where it began, and so is the mapping, if the key opens one.
    let r := (r.emitAt k.number .key).indentTo k.place.column k.number .blockMappingStart
    .ok (({ r with candidate := none, keyAllowed := false }.skip 1).emit .value)
  | none =>
    if !r.inFlow && !r.keyAllowed then .error .misplacedValue
    else
      let r := r.indentTo r.place.column r.read.length .blockMappingStart
      .ok (({ r with keyAllowed := !r.inFlow }.skip 1).emit .value)

/-! ### Names and tags -/

/-- Whether an anchor or alias may end before the given text. -/
def endsName : Text → Bool
  | [] => true
  | c :: _ => isSpace c || isBreak c || "?:,]\x7d%@`".toList.contains c

/-- Reads an anchor or alias, the sign of which has been seen. -/
def name (r : Reader) (make : Text → Token) : Except Error Reader := do
  let r ← r.saveKey
  let r := { r with keyAllowed := false }.skip 1
  let name := r.rest.takeWhile isNameChar
  let r := r.skip name.length
  if name.isEmpty || !endsName r.rest then .error .invalidName
  pure (r.emit (make name))

/-- Whether a character may stand in a tag. The characters that separate the entries of a
flow collection may stand only where the tag is written out in full. -/
def isTagChar (full : Bool) (c : Char) : Bool :=
  isNameChar c || ";/?:@&=+$.!~*'()%".toList.contains c || (full && ",[]".toList.contains c)

/-- How many bytes the character has that begins with the given byte. -/
def encodedLength? (n : Nat) : Option Nat :=
  if n < 0x80 then some 1
  else if n < 0xC0 then none
  else if n < 0xE0 then some 2
  else if n < 0xF0 then some 3
  else if n < 0xF8 then some 4
  else none

/-- The bytes in a row of escapes `%XX`, at most as many as given. -/
def escapedBytes : (most : Nat) → Text → List Nat
  | k + 1, '%' :: a :: b :: s =>
    match Number.readNat? 16 [a, b] with
    | some n => n :: escapedBytes k s
    | none => []
  | _, _ => []

/-- The character that the given bytes encode. -/
def decodeBytes? : List Nat → Option Char
  | [] => none
  | b :: bs => do
    let n ← encodedLength? b
    let first := if n = 1 then b else b % Nat.pow 2 (7 - n)
    let code := bs.foldl (fun acc c => acc * 64 + c % 64) first
    if bs.length + 1 = n && bs.all (fun c => c / 64 == 2) && code.isValidChar then
      some (Char.ofNat code)
    else none

/-- A tag without its escapes. A `%` begins the bytes of an encoded character. The first
`skip` characters belong to an escape that was read already. -/
def unescapeTag : (skip : Nat) → Text → Except Error Text
  | _, [] => .ok []
  | k + 1, _ :: s => unescapeTag k s
  | 0, c :: s =>
    if c == '%' then do
      let length := ((escapedBytes 1 (c :: s)).head?.bind encodedLength?).getD 1
      match decodeBytes? (escapedBytes length (c :: s)) with
      | some d => return d :: (← unescapeTag (3 * length - 1) s)
      | none => .error .invalidTag
    else do return c :: (← unescapeTag 0 s)

/-- Reads the characters of a tag at the front of a text, after those in `start`, and gives
the tag with the rest. -/
def tagText (full : Bool) (start s : Text) : Except Error (Text × Text) := do
  return (← unescapeTag 0 (start ++ s.takeWhile (isTagChar full)), s.dropWhile (isTagChar full))

/-- Reads `!<suffix>`, `!handle!suffix`, `!!suffix`, `!suffix` or `!` after the sign, and
gives the handle, the suffix and the rest. -/
def tagParts (s : Text) : Except Error (Text × Text × Text) :=
  match s with
  | '<' :: s => do
    let (suffix, rest) ← tagText true [] s
    match rest with
    | '>' :: rest => if suffix.isEmpty then .error .invalidTag else pure ([], suffix, rest)
    | _ => .error .invalidTag
  | s =>
    let word := s.takeWhile isNameChar
    match s.dropWhile isNameChar with
    | '!' :: s => do
      let (suffix, rest) ← tagText false [] s
      if suffix.isEmpty then .error .invalidTag else pure ('!' :: word ++ ['!'], suffix, rest)
    | s => do
      let (suffix, rest) ← tagText false word s
      pure (if suffix.isEmpty then ([], ['!'], rest) else (['!'], suffix, rest))

/-- Reads a tag. -/
def tag (r : Reader) : Except Error Reader := do
  let r ← r.saveKey
  let (handle, suffix, rest) ← tagParts (r.rest.drop 1)
  let r := { r with keyAllowed := false }.skip (r.rest.length - rest.length)
  if atGap rest || (r.inFlow && rest.head? == some ',') then pure (r.emit (.tag handle suffix))
  else .error .invalidTag

/-! ### Directives -/

/-- Reads a version `major.minor` and gives it with the rest. -/
def versionFrom (s : Text) : Except Error (Token × Text) :=
  let rest := s.dropWhile Number.isDigit
  match Number.readNat? 10 (s.takeWhile Number.isDigit), rest with
  | some major, '.' :: t =>
    match Number.readNat? 10 (t.takeWhile Number.isDigit) with
    | some minor => .ok (.version major minor, t.dropWhile Number.isDigit)
    | none => .error .invalidDirective
  | _, _ => .error .invalidDirective

/-- Reads the handle of a tag: `!`, `!!` or `!name!`. -/
def handleFrom (s : Text) : Except Error (Text × Text) :=
  match s with
  | '!' :: t =>
    let word := t.takeWhile isNameChar
    match t.dropWhile isNameChar with
    | '!' :: rest => .ok ('!' :: word ++ ['!'], rest)
    | rest => if word.isEmpty then .ok (['!'], rest) else .error .invalidDirective
  | _ => .error .invalidDirective

/-- Reads a handle and what it stands for, and gives them with the rest. -/
def meaningFrom (s : Text) : Except Error (Token × Text) := do
  let (name, s) ← handleFrom s
  if !s.head?.any isSpace then .error .invalidDirective
  let (meaning, s) ← tagText true [] (s.dropWhile isSpace)
  if meaning.isEmpty || !atGap s then .error .invalidDirective
  pure (.handle name meaning, s)

/-- Reads a directive after its `%`, and gives it with the rest. -/
def directiveFrom (s : Text) : Except Error (Token × Text) :=
  let word := s.takeWhile isNameChar
  let rest := s.dropWhile isNameChar
  if !atGap rest then .error .invalidDirective
  else if word == "YAML".toList then versionFrom (rest.dropWhile isSpace)
  else if word == "TAG".toList then meaningFrom (rest.dropWhile isSpace)
  else .error .invalidDirective

/-- Reads the line of a directive, which may end in a comment. -/
def directive (r : Reader) : Except Error Reader := do
  let r ← (r.unindent (-1)).dropKey
  let (t, rest) ← directiveFrom (r.rest.drop 1)
  let rest := rest.dropWhile isSpace
  let rest := if rest.head? == some '#' then rest.dropWhile (!isBreak ·) else rest
  if !atLineEnd rest then .error .invalidDirective
  pure ({ r with keyAllowed := false }.skip (r.rest.length - rest.length) |>.emit t)

/-! ### Scalars -/

/-- Adds a scalar that was read. -/
def accept (r : Reader) (style : Style) (s : Scanned) : Reader :=
  { r with rest := s.rest, place := s.place }.emit (.scalar style s.text)

/-- Reads a scalar in quotes. -/
def quotedScalar (r : Reader) (style : Style)
    (scan : Gap → Place → Text → Except Error Scanned) : Except Error Reader := do
  let r ← r.saveKey
  let r := { r with keyAllowed := false }.skip 1
  return r.accept style (← scan {} r.place r.rest)

/-- Reads a plain scalar. If it ends on an earlier line than the rest begins, a key may
begin after it. -/
def plainScalar (r : Reader) : Except Error Reader := do
  let r ← r.saveKey
  let s ← plainFrom r.inFlow (r.indent + 1).toNat {} r.place r.rest
  pure ({ r with keyAllowed := s.broken }.accept .plain s)

/-- Reads a block scalar. -/
def blockScalar (r : Reader) (style : Style) : Except Error Reader := do
  let r := ({ (← r.dropKey) with keyAllowed := true }).skip 1
  return r.accept style (← Yaml.blockScalar (style == .folded) r.indent r.place r.rest)

/-! ### The whole text -/

/-- The characters that begin a token of their own and so no plain scalar. -/
def indicators : Text := "-?:,[]\x7b\x7d#&*!|>'\"%@`".toList

/-- Reads the token that begins with the given character. -/
def dispatch (r : Reader) (c : Char) (s : Text) : Except Error Reader :=
  -- What counts only at the start of a line.
  if r.place.column == 0 && c == '%' then r.directive
  else if r.place.column == 0 && isDocumentMark (c :: s) then
    r.documentMark (if c == '-' then .documentStart else .documentEnd)
  -- Flow collections.
  else if c == '[' then r.flowStart .flowSequenceStart
  else if c == '\x7b' then r.flowStart .flowMappingStart
  else if c == ']' then r.flowEnd .flowSequenceEnd
  else if c == '\x7d' then r.flowEnd .flowMappingEnd
  else if c == ',' then r.flowEntry
  -- Signs that need a blank after them, the last two only outside flow collections.
  else if c == '-' && atGap s then r.blockEntry
  else if c == '?' && (r.inFlow || atGap s) then r.explicitKey
  else if c == ':' && (r.inFlow || atGap s) then r.mappingValue
  -- Properties of nodes.
  else if c == '*' then r.name .alias
  else if c == '&' then r.name .anchor
  else if c == '!' then r.tag
  -- Scalars. What is left begins a plain one, if anything.
  else if c == '|' && !r.inFlow then r.blockScalar .literal
  else if c == '>' && !r.inFlow then r.blockScalar .folded
  else if c == '\'' then r.quotedScalar .singleQuoted singleFrom
  else if c == '"' then r.quotedScalar .doubleQuoted doubleFrom
  else if !(isSpace c || indicators.contains c) || c == '-' ||
      (!r.inFlow && (c == '?' || c == ':')) then
    r.plainScalar
  else .error .unexpectedCharacter

/-- Moves to the next token and closes the block collections that end before it. -/
def advance (r : Reader) : Except Error Reader := do
  let r ← r.toToken.dropStale
  pure (r.unindent r.place.column)

/-- Closes everything at the end of the text. -/
def finish (r : Reader) : Except Error Reader := (r.unindent (-1)).dropKey

/-- Reads at most `fuel` tokens and, if that is all of them, closes everything. -/
def run : (fuel : Nat) → Reader → Except Error Reader
  | 0, r => .ok r
  | fuel + 1, r => do
    let r ← r.advance
    match r.rest with
    | [] => r.finish
    | c :: s => run fuel (← r.dispatch c s)

end Reader

/-- The tokens of a text. Every step takes at least one character. -/
def tokens (s : Text) : Except Error (List Token) :=
  if s.all isAllowed then do
    let r ← Reader.run (s.length + 1) { rest := s }
    return r.read.reverse
  else .error .forbiddenCharacter

end Yaml

end Tagline

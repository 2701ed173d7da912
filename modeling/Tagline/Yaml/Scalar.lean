import Tagline.Number.Digits
import Tagline.Yaml.Character
import Tagline.Yaml.Error

/-!
# YAML scalars in a text

The five ways to write a scalar: plain, in single or double quotes, and as a
literal or folded block. Each reader goes through the text character by character
and gives the scalar's text, the rest, and the place where the rest begins
(`Yaml.Scanned`).

Inside a plain or quoted scalar a run of white space and line ends is a *gap*
(`Yaml.Gap`). A gap on one line stands for its white space; one line end alone
becomes a space; of several the first is dropped and the others stay.
-/

namespace Tagline

namespace Yaml

/-- How a scalar is written. -/
inductive Style where
  | plain
  | singleQuoted
  | doubleQuoted
  | literal
  | folded
  deriving DecidableEq, Repr

/-- A scalar that was read from a text. -/
structure Scanned where
  text : Text
  rest : Text
  place : Place
  /-- Whether the rest begins on a later line than the scalar ended on. -/
  broken : Bool
  deriving DecidableEq, Repr

/-- Puts characters at the front of a scalar. -/
def Scanned.prepend (s : Text) (r : Scanned) : Scanned := { r with text := s ++ r.text }

/-! ### Gaps -/

/-- A run of white space and line ends: the white space before the first line end, the
first line end, and the later ones. -/
structure Gap where
  spaces : Text := []
  first : Option Text := none
  later : Text := []
  deriving DecidableEq, Repr

namespace Gap

/-- Whether nothing has been met yet. -/
def isEmpty (g : Gap) : Bool := g.spaces.isEmpty && g.first.isNone

/-- Whether a line end has been met. -/
def broken (g : Gap) : Bool := g.first.isSome

/-- Adds white space, which counts only before the first line end. -/
def addSpace (g : Gap) (c : Char) : Gap :=
  if g.broken then g else { g with spaces := g.spaces ++ [c] }

/-- Adds a line end. -/
def addBreak (g : Gap) (b : Text) : Gap :=
  match g.first with
  | none => { spaces := [], first := some b, later := [] }
  | some _ => { g with later := g.later ++ b }

/-- What a gap stands for. -/
def text (g : Gap) : Text :=
  match g.first with
  | none => g.spaces
  | some b => if b = ['\n'] then (if g.later.isEmpty then [' '] else g.later) else b ++ g.later

end Gap

/-! ### Plain scalars -/

/-- Whether a character ends a plain scalar in a flow collection. -/
def isFlowIndicator (c : Char) : Bool :=
  c == ',' || c == '[' || c == ']' || c == '\x7b' || c == '\x7d'

/-- Reads a plain scalar. It ends before `: `, before a comment, before a line that is
indented less than `indent`, and in a flow collection before an indicator. -/
def plainFrom (flow : Bool) (indent : Nat) (gap : Gap) (here : Place) :
    Text → Except Error Scanned
  | [] => .ok ⟨[], [], here, gap.broken⟩
  | '\r' :: '\n' :: s => plainFrom flow indent (gap.addBreak ['\n']) here.nextLine s
  | c :: s =>
    if isBreak c then plainFrom flow indent (gap.addBreak (breakText c)) here.nextLine s
    else if isSpace c then
      if gap.broken && c == '\t' && here.column < indent then .error .tabIndentation
      else plainFrom flow indent (gap.addSpace c) here.next s
    -- After a gap the scalar may be over.
    else if !gap.isEmpty &&
        ((!flow && here.column < indent) || (here.column == 0 && isDocumentMark (c :: s)) ||
          c == '#') then
      .ok ⟨[], c :: s, here, gap.broken⟩
    else if flow && c == ':' && (s.head?.any fun d => isFlowIndicator d || d == '?') then
      .error .unexpectedColon
    else if (c == ':' && atGap s) || (flow && isFlowIndicator c) then
      .ok ⟨[], c :: s, here, gap.broken⟩
    else
      (plainFrom flow indent {} here.next s).map (Scanned.prepend (gap.text ++ [c]))

/-! ### Quoted scalars -/

/-- Reads a scalar in single quotes after the opening quote. Two quotes in a row stand
for one. -/
def singleFrom (gap : Gap) (here : Place) : Text → Except Error Scanned
  | [] => .error .unfinishedQuote
  | '\r' :: '\n' :: s => singleFrom (gap.addBreak ['\n']) here.nextLine s
  | '\'' :: '\'' :: s => (singleFrom {} (here.skip 2) s).map (Scanned.prepend (gap.text ++ ['\'']))
  | c :: s =>
    if isBreak c then singleFrom (gap.addBreak (breakText c)) here.nextLine s
    else if isSpace c then singleFrom (gap.addSpace c) here.next s
    else if here.column == 0 && isDocumentMark (c :: s) then .error .unfinishedQuote
    else if c == '\'' then .ok ⟨gap.text, s, here.next, false⟩
    else (singleFrom {} here.next s).map (Scanned.prepend (gap.text ++ [c]))

/-- The character that a backslash and a letter stand for. -/
def escape? : Char → Option Char
  | '0' => some '\x00'
  | 'a' => some '\x07'
  | 'b' => some '\x08'
  | 't' => some '\t'
  | '\t' => some '\t'
  | 'n' => some '\n'
  | 'v' => some '\x0b'
  | 'f' => some '\x0c'
  | 'r' => some '\r'
  | 'e' => some '\x1b'
  | ' ' => some ' '
  | '"' => some '"'
  | '/' => some '/'
  | '\\' => some '\\'
  | 'N' => some '\u0085'
  | '_' => some '\u00a0'
  | 'L' => some '\u2028'
  | 'P' => some '\u2029'
  | _ => none

/-- The character with a number in hexadecimal digits. -/
def codePoint? (digits : Text) : Option Char := do
  let n ← Number.readNat? 16 digits
  if n.isValidChar then some (Char.ofNat n) else none

/-- Reads a scalar in double quotes after the opening quote. A backslash begins an
escape; at the end of a line it joins the next line without a space. -/
def doubleFrom (gap : Gap) (here : Place) : Text → Except Error Scanned
  | [] => .error .unfinishedQuote
  | '\r' :: '\n' :: s => doubleFrom (gap.addBreak ['\n']) here.nextLine s
  | '\\' :: '\r' :: '\n' :: s =>
    (doubleFrom { first := some [] } here.nextLine s).map (Scanned.prepend gap.text)
  | '\\' :: 'x' :: a :: b :: s =>
    match codePoint? [a, b] with
    | none => .error .invalidEscape
    | some d => (doubleFrom {} (here.skip 4) s).map (Scanned.prepend (gap.text ++ [d]))
  | '\\' :: 'u' :: a :: b :: c :: d :: s =>
    match codePoint? [a, b, c, d] with
    | none => .error .invalidEscape
    | some x => (doubleFrom {} (here.skip 6) s).map (Scanned.prepend (gap.text ++ [x]))
  | '\\' :: 'U' :: a :: b :: c :: d :: e :: f :: g :: h :: s =>
    match codePoint? [a, b, c, d, e, f, g, h] with
    | none => .error .invalidEscape
    | some x => (doubleFrom {} (here.skip 10) s).map (Scanned.prepend (gap.text ++ [x]))
  | '\\' :: c :: s =>
    if isBreak c then
      (doubleFrom { first := some [] } here.nextLine s).map (Scanned.prepend gap.text)
    else match escape? c with
      | none => .error .unknownEscape
      | some d => (doubleFrom {} (here.skip 2) s).map (Scanned.prepend (gap.text ++ [d]))
  | c :: s =>
    if isBreak c then doubleFrom (gap.addBreak (breakText c)) here.nextLine s
    else if isSpace c then doubleFrom (gap.addSpace c) here.next s
    else if here.column == 0 && isDocumentMark (c :: s) then .error .unfinishedQuote
    else if c == '"' then .ok ⟨gap.text, s, here.next, false⟩
    else (doubleFrom {} here.next s).map (Scanned.prepend (gap.text ++ [c]))

/-! ### Block scalars -/

/-- What is done with the line ends at the end of a block scalar. -/
inductive Chomping where
  /-- All are dropped. -/
  | strip
  /-- One is kept. -/
  | clip
  /-- All are kept. -/
  | keep
  deriving DecidableEq, Repr

/-- The signs after `|` or `>`: what to do at the end, and by how much the lines are
indented more than the parent. -/
structure BlockHeader where
  chomping : Chomping
  increment : Option Nat
  deriving DecidableEq, Repr

/-- A digit from one to nine. -/
def increment? (c : Char) : Option Nat := (Number.digitIn? 10 c).filter (0 < ·)

/-- The sign of a way to end a block scalar. -/
def chomping? : Char → Option Chomping
  | '-' => some .strip
  | '+' => some .keep
  | _ => none

/-- Reads the signs after `|` or `>`, in either order. -/
def BlockHeader.read (s : Text) : BlockHeader × Text :=
  match s with
  | [] => (⟨.clip, none⟩, s)
  | c :: r =>
    match chomping? c, increment? c with
    | some k, _ =>
      match r with
      | d :: r' => match increment? d with
        | some n => (⟨k, some n⟩, r')
        | none => (⟨k, none⟩, r)
      | [] => (⟨k, none⟩, r)
    | none, some n =>
      match r with
      | d :: r' => match chomping? d with
        | some k => (⟨k, some n⟩, r')
        | none => (⟨.clip, some n⟩, r)
      | [] => (⟨.clip, some n⟩, r)
    | none, none => (⟨.clip, none⟩, s)

/-- The part of a block scalar that is settled when a line has been read: its end and
the empty lines after it, and whether it began with white space. -/
structure BlockGap where
  lineEnd : Text := []
  empty : Text := []
  indented : Bool := false
  deriving DecidableEq, Repr

/-- What stands between two lines of a block scalar. A folded scalar turns one line end
into a space, unless one of the lines begins with white space. -/
def BlockGap.join (folded : Bool) (g : BlockGap) (indentedNext : Bool) : Text :=
  if folded && g.lineEnd == ['\n'] && !g.indented && !indentedNext then
    if g.empty.isEmpty then [' '] else g.empty
  else g.lineEnd ++ g.empty

/-- What stands at the end of a block scalar. -/
def BlockGap.close (g : BlockGap) : Chomping → Text
  | .strip => []
  | .clip => g.lineEnd
  | .keep => g.lineEnd ++ g.empty

/-- Where the reader of a block scalar stands: before the content of a line, with the
deepest column that a line of white space reached, or inside it. -/
inductive BlockMode where
  | lead (deepest : Nat)
  | body
  deriving DecidableEq, Repr

/-- The indentation of a block scalar that was not given: that of its first line, and
at least one more than the parent's. -/
def foundIndent (least deepest : Nat) : Nat := max (max deepest least) 1

/-- Reads the lines of a block scalar whose lines are indented by `indent`, or by an
amount that the first line shows if that is zero. -/
def blockFrom (folded : Bool) (chomping : Chomping) (least : Nat) (indent : Nat) (gap : BlockGap)
    (mode : BlockMode) (here : Place) : Text → Except Error Scanned
  | [] => .ok ⟨gap.close chomping, [], here, true⟩
  | '\r' :: '\n' :: s =>
    match mode with
    | .lead deepest =>
      blockFrom folded chomping least indent { gap with empty := gap.empty ++ ['\n'] }
        (.lead (max deepest here.column)) here.nextLine s
    | .body =>
      blockFrom folded chomping least indent { gap with lineEnd := ['\n'], empty := [] }
        (.lead 0) here.nextLine s
  | c :: s =>
    match mode with
    | .body =>
      if isBreak c then
        blockFrom folded chomping least indent { gap with lineEnd := breakText c, empty := [] }
          (.lead 0) here.nextLine s
      else (blockFrom folded chomping least indent gap .body here.next s).map (Scanned.prepend [c])
    | .lead deepest =>
      if c == ' ' && (indent == 0 || here.column < indent) then
        blockFrom folded chomping least indent gap (.lead deepest) here.next s
      else if c == '\t' && (indent == 0 || here.column < indent) then .error .tabIndentation
      else if isBreak c then
        blockFrom folded chomping least indent { gap with empty := gap.empty ++ breakText c }
          (.lead (max deepest here.column)) here.nextLine s
      else
        -- The first line that is not blank shows the indentation, if the header gave none.
        let indent := if indent == 0 then foundIndent least (max deepest here.column) else indent
        if here.column == indent then
          (blockFrom folded chomping least indent ⟨[], [], isSpace c⟩ .body here.next s).map
            (Scanned.prepend (gap.join folded (isSpace c) ++ [c]))
        else .ok ⟨gap.close chomping, c :: s, here, true⟩

/-- Removes a line end at the front. -/
def dropBreak : Text → Text
  | '\r' :: '\n' :: s => s
  | c :: s => if isBreak c then s else c :: s
  | [] => []

/-- Reads a block scalar after `|` or `>`. Its parent is indented by `parent`, which is
negative at the top of a document. -/
def blockScalar (folded : Bool) (parent : Int) (here : Place) (s : Text) : Except Error Scanned :=
  let (header, s) := BlockHeader.read s
  let s := s.dropWhile isSpace
  let s := if s.head? == some '#' then s.dropWhile (!isBreak ·) else s
  if atLineEnd s then
    let indent := match header.increment with
      | some n => (if 0 ≤ parent then parent.toNat else 0) + n
      | none => 0
    blockFrom folded header.chomping (parent + 1).toNat indent {} (.lead 0) here.nextLine
      (dropBreak s)
  else .error .invalidBlockHeader

end Yaml

end Tagline

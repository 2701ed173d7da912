import Tagline.Number.Double
import Tagline.Template.Error

/-!
# Tokens of the template language

Inside the marks of a template, and in an expression that stands alone, the source is
a row of tokens with spaces between them: names, numbers, texts in quotes, and
symbols. Reading stops at the closing mark, which is not looked for inside brackets
(`Template.tokensFrom`).

A place where no token can be read ends the row with a token that says why, so that it
matters only if the tokens before it make sense. Between marks another such token follows,
since the closing mark was not reached (`Template.Row.broken`).
-/

namespace Tagline

namespace Template

/-- A symbol. -/
inductive Symbol where
  | plus
  | minus
  | times
  | power
  | slash
  | doubleSlash
  | percent
  | tilde
  | dot
  | comma
  | colon
  | pipe
  | assign
  | eq
  | ne
  | lt
  | le
  | gt
  | ge
  | parenOpen
  | parenClose
  | bracketOpen
  | bracketClose
  | braceOpen
  | braceClose
  deriving DecidableEq, Repr

/-- A token. -/
inductive Token where
  | name (s : Text)
  | string (s : Text)
  | int (n : Nat)
  | float (x : Float)
  | symbol (s : Symbol)
  /-- A place where there is no token, and why. -/
  | bad (f : Fault)
  deriving Repr

/-! ### Spaces -/

/-- Whether a character may stand between tokens: a space, a tab, or what ends a line or a
page. -/
def isSpace (c : Char) : Bool :=
  c == ' ' || c == '\t' || c == '\n' || c == '\r' || c == '\x0c'

/-- Without spaces at the front. -/
def skipSpace (s : Text) : Text := s.dropWhile isSpace

/-! ### Symbols -/

/-- Reads the symbol at the front, the longest one that fits. -/
def symbol? : Text → Option (Symbol × Text)
  | '/' :: '/' :: s => some (.doubleSlash, s)
  | '*' :: '*' :: s => some (.power, s)
  | '=' :: '=' :: s => some (.eq, s)
  | '!' :: '=' :: s => some (.ne, s)
  | '>' :: '=' :: s => some (.ge, s)
  | '<' :: '=' :: s => some (.le, s)
  | '+' :: s => some (.plus, s)
  | '-' :: s => some (.minus, s)
  | '*' :: s => some (.times, s)
  | '/' :: s => some (.slash, s)
  | '%' :: s => some (.percent, s)
  | '~' :: s => some (.tilde, s)
  | '.' :: s => some (.dot, s)
  | ',' :: s => some (.comma, s)
  | ':' :: s => some (.colon, s)
  | '|' :: s => some (.pipe, s)
  | '=' :: s => some (.assign, s)
  | '<' :: s => some (.lt, s)
  | '>' :: s => some (.gt, s)
  | '(' :: s => some (.parenOpen, s)
  | ')' :: s => some (.parenClose, s)
  | '[' :: s => some (.bracketOpen, s)
  | ']' :: s => some (.bracketClose, s)
  | '\x7b' :: s => some (.braceOpen, s)
  | '\x7d' :: s => some (.braceClose, s)
  | _ => none

/-- By how much a symbol changes the number of open brackets. -/
def Symbol.nesting : Symbol → Int
  | .parenOpen => 1
  | .bracketOpen => 1
  | .braceOpen => 1
  | .parenClose => -1
  | .bracketClose => -1
  | .braceClose => -1
  | _ => 0

/-! ### Names -/

/-- Whether a character can begin a name: a letter of the basic range or `_`. -/
def isNameStart (c : Char) : Bool := c.isAlpha || c == '_'

/-- Whether a character can go on with a name. -/
def isNameChar (c : Char) : Bool := c.isAlphanum || c == '_'

/-! ### Texts in quotes -/

/-- Cuts a text at the closing quote. A backslash keeps the character after it from being
one. -/
def toQuote? (quote : Char) : Text → Option (Text × Text)
  | [] => none
  | ['\\'] => none
  | '\\' :: c :: s => (toQuote? quote s).map (fun p => ('\\' :: c :: p.1, p.2))
  | c :: s =>
    if c == quote then some ([], s) else (toQuote? quote s).map (fun p => (c :: p.1, p.2))

/-- The character that a backslash and a letter stand for. -/
def escape? : Char → Option Char
  | '"' => some '"'
  | '\'' => some '\''
  | '\\' => some '\\'
  | '/' => some '/'
  | 'b' => some '\x08'
  | 'f' => some '\x0c'
  | 'n' => some '\n'
  | 'r' => some '\r'
  | 't' => some '\t'
  | _ => none

/-- Reads hexadecimal digits after an optional plus sign. -/
def readHex? : Text → Option Nat
  | '+' :: s => Number.readNat? 16 s
  | s => Number.readNat? 16 s

/-- The octal digits at the front of a text, at most three. -/
def octalDigits (s : Text) : Text := (s.take 3).takeWhile (fun c => (Number.digitIn? 8 c).isSome)

/-- What has been read of a text in quotes, the last character first. Half of a surrogate
pair may wait for the other half, before which nothing else may come. -/
structure Unescaped where
  read : Text := []
  half : Option Nat := none

namespace Unescaped

/-- Adds a character. -/
def add (c : Char) (u : Unescaped) : Option Unescaped :=
  if u.half.isSome then none else some { u with read := c :: u.read }

/-- Adds a unit of 16 bits: a character, or half of a surrogate pair. -/
def addUnit (n : Nat) (u : Unescaped) : Option Unescaped :=
  match u.half with
  | some high =>
    if high < 0xDC00 && 0xDC00 ≤ n && n ≤ 0xDFFF then
      some ⟨Char.ofNat (0x10000 + (high - 0xD800) * 0x400 + (n - 0xDC00)) :: u.read, none⟩
    else none
  | none =>
    if 0xD800 ≤ n && n ≤ 0xDFFF then some { u with half := some n } else u.add (Char.ofNat n)

/-- Reads what stands between quotes, after `u`. The first `skip` characters belong to an
escape that was read already. A backslash before a character that it does not escape stands
for itself. -/
def readFrom : (skip : Nat) → Unescaped → Text → Option Unescaped
  | _, u, [] => some u
  | k + 1, u, _ :: s => readFrom k u s
  | 0, u, ['\\'] => u.add '\\'
  | 0, u, '\\' :: c :: s =>
    if c == 'u' then do
      readFrom 4 (← u.addUnit (← (if 4 ≤ s.length then readHex? (s.take 4) else none))) s
    else if c == 'x' then do
      readFrom 2 (← u.add (Char.ofNat (← (if 2 ≤ s.length then readHex? (s.take 2) else none)))) s
    else match octalDigits (c :: s), escape? c with
      | _ :: ds, _ => do
        let n ← (Number.readNat? 8 (c :: ds)).filter (· < 256)
        readFrom ds.length (← u.add (Char.ofNat n)) s
      | [], some d => do readFrom 0 (← u.add d) s
      | [], none => do readFrom 0 (← (← u.add '\\').add c) s
  | 0, u, c :: s => do readFrom 0 (← u.add c) s

end Unescaped

/-- What a text between quotes stands for, if all its escapes stand for characters. -/
def unescape? (s : Text) : Option Text :=
  match Unescaped.readFrom 0 {} s with
  | some ⟨t, none⟩ => some t.reverse
  | _ => none

/-- Reads a text after its opening quote. -/
def quoted (quote : Char) (s : Text) : Token × Text :=
  match toQuote? quote s with
  | none => (.bad .syntaxError, [])
  | some (t, rest) =>
    match unescape? t with
    | some t => (.string t, rest)
    | none => (.bad .badEscape, [])

/-! ### Numbers -/

/-- Where the reader of a number stands. -/
inductive NumberPart where
  | whole
  | fraction
  | exponent
  | exponentDigits
  deriving DecidableEq, Repr

/-- Whether a text begins with an exponent: its mark, an optional sign, and a digit. -/
def beginsExponent : Text → Bool
  | c :: s =>
    let digits := match s with
      | '+' :: r => r
      | '-' :: r => r
      | r => r
    (c == 'e' || c == 'E') && digits.head?.any Number.isDigit
  | [] => false

/-- Whether the text after a point names an attribute. An exponent does not, though it looks
like a name. -/
def beginsAttribute (s : Text) : Bool := s.head?.any isNameStart && !beginsExponent s

/-- The part of a number that a character leads to, or `none` if it does not belong to the
number. A point belongs to it unless it stands before an attribute. -/
def NumberPart.next? (p : NumberPart) (c : Char) (s : Text) : Option NumberPart :=
  match p, c with
  | .whole, '.' => if beginsAttribute s then none else some .fraction
  | .whole, 'e' => some .exponent
  | .whole, 'E' => some .exponent
  | .fraction, 'e' => some .exponent
  | .fraction, 'E' => some .exponent
  | .exponent, '+' => some .exponentDigits
  | .exponent, '-' => some .exponentDigits
  | p, c =>
    if Number.isDigit c then some (if p = .exponent then .exponentDigits else p)
    else if c == '_' then some p
    else none

/-- Reads the characters of a number and gives them with the part that they end in and the
rest. -/
def numberText (p : NumberPart) : Text → Text × NumberPart × Text
  | [] => ([], p, [])
  | c :: s =>
    match p.next? c s with
    | some q =>
      let (t, last, rest) := numberText q s
      (c :: t, last, rest)
    | none => ([], p, c :: s)

/-- Reads a number in a base, after the mark of the base. -/
def basedNumber? (base : Nat) (s : Text) : Option (Token × Text) :=
  let isPart (c : Char) := (Number.digitIn? base c).isSome || Number.isDigit c || c == '_'
  let digits := s.takeWhile isPart
  if digits.getLast? == some '_' then none
  else match Number.readNat? base (digits.filter (· != '_')) with
    | some n => if n < Nat.pow 2 128 then some (.int n, s.dropWhile isPart) else none
    | none => none

/-- Reads a number. A whole number has at most 128 bits. -/
def number? (s : Text) : Option (Token × Text) :=
  match s with
  | '0' :: 'x' :: s => basedNumber? 16 s
  | '0' :: 'X' :: s => basedNumber? 16 s
  | '0' :: 'o' :: s => basedNumber? 8 s
  | '0' :: 'O' :: s => basedNumber? 8 s
  | '0' :: 'b' :: s => basedNumber? 2 s
  | '0' :: 'B' :: s => basedNumber? 2 s
  | s =>
    let (t, last, rest) := numberText .whole s
    let digits := t.filter (· != '_')
    if t.getLast? == some '_' then none
    else if last = .whole then
      match Number.readNat? 10 digits with
      | some n => if n < Nat.pow 2 128 then some (.int n, rest) else none
      | none => none
    else (Number.readFloat? digits).map (fun x => (.float x, rest))

/-! ### Rows of tokens -/

/-- Reads the token at the front and gives it with the rest. -/
def token (s : Text) : Token × Text :=
  match s with
  | [] => (.bad .syntaxError, [])
  | c :: r =>
    if c == '\'' || c == '"' then quoted c r
    else if Number.isDigit c then (number? s).getD (.bad .syntaxError, [])
    else if isNameStart c then (.name (s.takeWhile isNameChar), s.dropWhile isNameChar)
    else match symbol? s with
      | some (t, rest) => (.symbol t, rest)
      | none => (.bad .syntaxError, [])

/-- The change in the number of open brackets that a token makes. -/
def Token.nesting : Token → Int
  | .symbol s => s.nesting
  | _ => 0

/-- A row of tokens up to a closing mark. -/
structure Row where
  tokens : List Token
  /-- Whether the blanks after the closing mark are dropped. -/
  trims : Bool
  rest : Text
  deriving Repr

/-- A row that ends where there is no token, and so before the closing mark if it needs
one. -/
def Row.broken (mark : Option Text) (f : Fault) : Row :=
  ⟨.bad f :: (if mark.isSome then [.bad .syntaxError] else []), false, []⟩

/-- The rest after a closing mark at the front, and whether it drops blanks. -/
def closing? (mark s : Text) : Option (Bool × Text) :=
  match s with
  | '-' :: r =>
    match Text.after? mark r with
    | some rest => some (true, rest)
    | none => (Text.after? mark s).map (false, ·)
  | '+' :: r =>
    match Text.after? mark r with
    | some rest => some (false, rest)
    | none => (Text.after? mark s).map (false, ·)
  | _ => (Text.after? mark s).map (false, ·)

/-- Reads at most `fuel` tokens up to the closing mark, inside `nesting` brackets. Without a
mark, reads to the end of the source. -/
def tokensFrom (mark : Option Text) : (fuel : Nat) → (nesting : Int) → Text → Row
  | 0, _, _ => .broken mark .syntaxError
  | fuel + 1, nesting, s =>
    let s := skipSpace s
    match if nesting = 0 then mark.bind (closing? · s) else none with
    | some (trims, rest) => ⟨[], trims, rest⟩
    | none =>
      match s with
      | [] => if mark.isNone then ⟨[], false, []⟩ else .broken mark .syntaxError
      | _ =>
        match token s with
        | (.bad f, _) => .broken mark f
        | (t, rest) =>
          let row := tokensFrom mark fuel (nesting + t.nesting) rest
          { row with tokens := t :: row.tokens }

/-- The tokens of an expression that stands alone. -/
def tokens (s : Text) : List Token := (tokensFrom none (s.length + 1) 0 s).tokens

end Template

end Tagline

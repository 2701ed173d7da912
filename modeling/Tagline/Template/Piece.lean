import Tagline.Template.Token
import Tagline.Text.Blank

/-!
# The pieces of a template

A template is text with marked pieces in it: `{{ … }}` writes the value of an
expression, `{% … %}` is a statement, and `{# … #}` is a comment. Between
`{% raw %}` and `{% endraw %}` no marks are looked for. A `-` next to a mark drops
the blanks of the text on that side. One line end at the very end of a template does
not count (`Template.dropLastBreak`).
-/

namespace Tagline

namespace Template

/-- A piece of a template. -/
inductive Piece where
  | text (s : Text)
  | output (tokens : List Token)
  | statement (tokens : List Token)
  /-- A comment or raw part without its end. -/
  | unclosed
  deriving Repr

/-- The marks that open a piece. -/
inductive Mark where
  | output
  | statement
  | comment
  deriving DecidableEq, Repr

/-- The mark at the front, and the rest. -/
def mark? : Text → Option (Mark × Text)
  | '\x7b' :: '\x7b' :: s => some (.output, s)
  | '\x7b' :: '%' :: s => some (.statement, s)
  | '\x7b' :: '#' :: s => some (.comment, s)
  | _ => none

/-- The text up to the first mark, and that mark with the rest. -/
def toMark : Text → Text × Option (Mark × Text)
  | [] => ([], none)
  | c :: s =>
    match mark? (c :: s) with
    | some m => ([], some m)
    | none =>
      let (t, m) := toMark s
      (c :: t, m)

/-- The text up to the first occurrence of a word, and what follows it. -/
def cutAt? (word : Text) : Text → Option (Text × Text)
  | [] => if word.isEmpty then some ([], []) else none
  | c :: s =>
    match Text.after? word (c :: s) with
    | some r => some ([], r)
    | none => (cutAt? word s).map (fun p => (c :: p.1, p.2))

/-- Whether the sign after an opening mark drops the blanks before it, and the rest after
the sign. -/
def openingSign : Text → Bool × Text
  | '-' :: s => (true, s)
  | '+' :: s => (false, s)
  | s => (false, s)

/-- Reads a statement that is one word, after its opening mark and sign, and gives the rest
and whether the blanks after it are dropped. -/
def wordStatement? (word s : Text) : Option (Bool × Text) := do
  let s ← Text.after? word (skipSpace s)
  closing? "%\x7d".toList (skipSpace s)

/-- Reads text without marks up to the end of the raw part: the text, whether the blanks at
its end are dropped, whether those after it are, and the rest. -/
def rawFrom : Text → Option (Text × Bool × Bool × Text)
  | [] => none
  | c :: s =>
    let found := (Text.after? "\x7b%".toList (c :: s)).bind fun r =>
      let (trimsBefore, r) := openingSign r
      (wordStatement? "endraw".toList r).map (fun p => (trimsBefore, p))
    match found with
    | some (trimsBefore, trimsAfter, rest) => some ([], trimsBefore, trimsAfter, rest)
    | none => (rawFrom s).map (fun p => (c :: p.1, p.2))

/-- Drops the blanks at the start and at the end, as far as that is asked for. -/
def trimIf (start finish : Bool) (s : Text) : Text :=
  let s := if start then Text.trimStart s else s
  if finish then Text.trimEnd s else s

/-- A piece of text in front of others, unless it is empty. -/
def consPiece (s : Text) (ps : List Piece) : List Piece :=
  if s.isEmpty then ps else .text s :: ps

/-- Reads at most `fuel` pieces. Blanks at the front are dropped if `trims` holds. -/
def piecesFrom : (fuel : Nat) → (trims : Bool) → Text → List Piece
  | 0, _, _ => []
  | fuel + 1, trims, s =>
    match toMark s with
    | (t, none) => consPiece (trimIf trims false t) []
    | (t, some (mark, body)) =>
      let (trimsBefore, r) := openingSign body
      consPiece (trimIf trims trimsBefore t) <|
      match mark with
      | .comment =>
        -- The sign after the opening mark of an empty comment is also that before its end.
        match cutAt? "#\x7d".toList body with
        | some (comment, r) => piecesFrom fuel (comment.getLast? == some '-') r
        | none => [.unclosed]
      | .output =>
        let row := tokensFrom (some "\x7d\x7d".toList) (r.length + 1) 0 r
        .output row.tokens :: piecesFrom fuel row.trims row.rest
      | .statement =>
        match wordStatement? "raw".toList r with
        | some (trimsStart, r) =>
          match rawFrom r with
          | some (raw, trimsEnd, trimsAfter, r) =>
            consPiece (trimIf trimsStart trimsEnd raw) (piecesFrom fuel trimsAfter r)
          | none => [.unclosed]
        | none =>
          let row := tokensFrom (some "%\x7d".toList) (r.length + 1) 0 r
          .statement row.tokens :: piecesFrom fuel row.trims row.rest

/-- Without a line feed at the end, and then without a carriage return. -/
def dropLastBreak (s : Text) : Text :=
  let s := (Text.before? ['\n'] s).getD s
  (Text.before? ['\r'] s).getD s

/-- The pieces of a template. Each takes at least one character. -/
def pieces (s : Text) : List Piece :=
  let s := dropLastBreak s
  piecesFrom (s.length + 1) false s

end Template

end Tagline

import Tagline.Text.Blank
import Tagline.Text.Line
import Tagline.Yaml.Typed

/-!
# Settings

How blocks are bound into a host: under which names, whether fragments are resolved, and
how the text of a block is cut into lines (`Settings.splitBody`).

Settings are given one by one (`Setting`), each changing what was there before, or as a
YAML mapping (`Settings.ofYaml`). A mapping may leave out any key, may not give one of the
keys below twice, and may hold other keys, whose values are not looked at.
-/

namespace Tagline

/-- How blocks are bound into a host. -/
structure Settings where
  /-- What stands before the name of each filter and function. -/
  namePrefix : Text := "jst_".toList
  /-- Whether the expressions of a `js` block are resolved. -/
  resolveFragments : Bool := false
  /-- Whether the blanks at the start of a line are dropped. -/
  stripIndent : Bool := true
  /-- Whether lines of blanks are dropped. -/
  skipBlankLines : Bool := true
  deriving DecidableEq, Repr

/-- One of the settings. -/
inductive Setting where
  | namePrefix (text : Text)
  | resolveFragments (on : Bool)
  | stripIndent (on : Bool)
  | skipBlankLines (on : Bool)
  deriving DecidableEq, Repr

namespace Setting

/-- What a setting is about. -/
inductive Key where
  | namePrefix
  | resolveFragments
  | stripIndent
  | skipBlankLines
  deriving DecidableEq, Repr

namespace Key

/-- All keys. -/
def all : List Key := [.namePrefix, .resolveFragments, .stripIndent, .skipBlankLines]

/-- The name of a key. -/
def name : Key → Text
  | .namePrefix => "prefix".toList
  | .resolveFragments => "compile_text".toList
  | .stripIndent => "strip_indent".toList
  | .skipBlankLines => "skip_blank_lines".toList

/-- The key with a name. -/
def ofName? (name : Text) : Option Key := all.find? (fun k => k.name == name)

end Key

/-- The key of a setting. -/
def key : Setting → Key
  | .namePrefix _ => .namePrefix
  | .resolveFragments _ => .resolveFragments
  | .stripIndent _ => .stripIndent
  | .skipBlankLines _ => .skipBlankLines

/-- Changes one of the settings. -/
def apply (s : Settings) : Setting → Settings
  | .namePrefix text => { s with namePrefix := text }
  | .resolveFragments on => { s with resolveFragments := on }
  | .stripIndent on => { s with stripIndent := on }
  | .skipBlankLines on => { s with skipBlankLines := on }

/-- Reads the value of a setting. -/
def ofNode (d : Yaml.Document) (n : Yaml.Node) : Key → Except Yaml.Error Setting
  | .namePrefix => Setting.namePrefix <$> d.text n
  | .resolveFragments => Setting.resolveFragments <$> d.bool n
  | .stripIndent => Setting.stripIndent <$> d.bool n
  | .skipBlankLines => Setting.skipBlankLines <$> d.bool n

/-- Reads the settings in the entries of a mapping, after those under the keys `seen`. -/
def ofEntries (d : Yaml.Document) (seen : List Key) :
    List (Yaml.Node × Yaml.Node) → Except Yaml.Error (List Setting)
  | [] => .ok []
  | (k, v) :: es => do
    match Key.ofName? (← d.text k) with
    -- The value under a key of another name is passed over unread.
    | none => ofEntries d seen es
    | some key =>
      if seen.contains key then .error .duplicateKey
      else
        let setting ← ofNode d v key
        let rest ← ofEntries d (key :: seen) es
        return setting :: rest

end Setting

namespace Settings

/-- The settings that are changed one after the other. -/
def ofList (changes : List Setting) : Settings := changes.foldl Setting.apply {}

/-- Reads settings from a YAML text. A text of blanks changes none. -/
def ofYaml (s : Text) : Except Yaml.Error Settings :=
  if Text.allBlank s then .ok {}
  else do
    let d ← Yaml.document s
    let changes ← Setting.ofEntries d [] (← d.entries)
    return ofList changes

/-- The name of a filter or function in the host. -/
def qualified (s : Settings) (name : Text) : Text := s.namePrefix ++ name

/-- A line without its indentation, if that is dropped. -/
def dedent (s : Settings) (line : Text) : Text :=
  if s.stripIndent then Text.trimStart line else line

/-- Whether a line is kept. -/
def keeps (s : Settings) (line : Text) : Bool := !(s.skipBlankLines && Text.allBlank line)

/-- The lines of the text of a block. -/
def splitBody (s : Settings) (text : Text) : List Text :=
  ((Text.lines text).map s.dedent).filter s.keeps

end Settings

end Tagline

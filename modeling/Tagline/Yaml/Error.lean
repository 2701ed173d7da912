import Tagline.Text.Quoted

/-!
# Why a YAML text is rejected
-/

namespace Tagline

namespace Yaml

/-- A reason to reject a YAML text. -/
inductive Error where
  /-- A character that no YAML text may hold. -/
  | forbiddenCharacter
  /-- A tab where indentation is expected. -/
  | tabIndentation
  /-- A character that begins no token. -/
  | unexpectedCharacter
  /-- A line that begins with `%` and is no directive, or one that does not fit. -/
  | invalidDirective
  /-- A line that must be a key has no `:`. -/
  | unfinishedKey
  /-- A `-` entry where no block sequence may begin. -/
  | misplacedEntry
  /-- A `?` key where no mapping may begin. -/
  | misplacedKey
  /-- A `:` where no mapping may begin. -/
  | misplacedValue
  /-- A quoted scalar without its closing quote. -/
  | unfinishedQuote
  /-- A backslash before a character that it does not escape. -/
  | unknownEscape
  /-- An escape that is not the number of a character. -/
  | invalidEscape
  /-- A `:` inside a plain scalar of a flow collection. -/
  | unexpectedColon
  /-- An anchor or alias without a name. -/
  | invalidName
  /-- A malformed tag. -/
  | invalidTag
  /-- A tag whose handle is not declared. -/
  | unknownHandle
  /-- A malformed first line of a block scalar. -/
  | invalidBlockHeader
  /-- A token that does not fit the structure. -/
  | unexpectedToken
  /-- A second document. -/
  | secondDocument
  /-- An alias without an anchor. -/
  | unknownAlias
  /-- A mapping with one key twice. -/
  | duplicateKey
  /-- Collections nested too deeply. -/
  | tooDeep
  /-- Aliases that repeat too much. -/
  | tooManyAliases
  /-- A scalar that is not of the type that is asked for. -/
  | invalidScalar
  /-- A node that is not of the kind that is asked for. -/
  | unexpectedKind
  deriving DecidableEq, Repr

/-- The reason in words. -/
def Error.message : Error → Text
  | .forbiddenCharacter => "control characters are not allowed".toList
  | .tabIndentation => "a tab stands where indentation is expected".toList
  | .unexpectedCharacter => "a character cannot start any token".toList
  | .invalidDirective => "malformed or unsuitable directive".toList
  | .unfinishedKey => "a key lacks its ':'".toList
  | .misplacedEntry => "block sequence entries are not allowed in this context".toList
  | .misplacedKey => "mapping keys are not allowed in this context".toList
  | .misplacedValue => "mapping values are not allowed in this context".toList
  | .unfinishedQuote => "a quoted scalar is not closed".toList
  | .unknownEscape => "unknown escape character".toList
  | .invalidEscape => "an escape is not the number of a character".toList
  | .unexpectedColon => "unexpected ':' in a flow collection".toList
  | .invalidName => "an anchor or alias needs a name".toList
  | .invalidTag => "malformed tag".toList
  | .unknownHandle => "undefined tag handle".toList
  | .invalidBlockHeader => "malformed block scalar header".toList
  | .unexpectedToken => "unexpected token".toList
  | .secondDocument => "more than one document".toList
  | .unknownAlias => "unknown anchor".toList
  | .duplicateKey => "duplicate entry in a mapping".toList
  | .tooDeep => "recursion limit exceeded".toList
  | .tooManyAliases => "repetition limit exceeded".toList
  | .invalidScalar => "a scalar is not of the expected type".toList
  | .unexpectedKind => "a node is not of the expected kind".toList

end Yaml

end Tagline

import Tagline.Block
import Tagline.Clause
import Tagline.Failure
import Tagline.Filter
import Tagline.FilterTable
import Tagline.Fragment
import Tagline.Host
import Tagline.Json.Reader
import Tagline.Json.Value
import Tagline.Log
import Tagline.LoopNames
import Tagline.Markup
import Tagline.Number.Digits
import Tagline.Number.Double
import Tagline.Number.Nearest
import Tagline.Number.Shortest
import Tagline.Proofs.Expansion
import Tagline.Proofs.LineGrammar
import Tagline.Proofs.Nesting
import Tagline.Proofs.Spelling
import Tagline.Proofs.TagReader
import Tagline.Proofs.Text.Bracket
import Tagline.Proofs.Text.Trimming
import Tagline.Resolver
import Tagline.Settings
import Tagline.Tag
import Tagline.Template.Builtin
import Tagline.Template.Constant
import Tagline.Template.Environment
import Tagline.Template.Error
import Tagline.Template.Escape
import Tagline.Template.Evaluation
import Tagline.Template.Expr
import Tagline.Template.Operator
import Tagline.Template.Piece
import Tagline.Template.Rendering
import Tagline.Template.Statement
import Tagline.Template.Token
import Tagline.Template.Value
import Tagline.Text.Basic
import Tagline.Text.Blank
import Tagline.Text.Class
import Tagline.Text.Letter
import Tagline.Text.Line
import Tagline.Text.Quoted
import Tagline.Text.Shown
import Tagline.Yaml.Character
import Tagline.Yaml.Error
import Tagline.Yaml.Node
import Tagline.Yaml.Scalar
import Tagline.Yaml.Token
import Tagline.Yaml.Typed
import Tagline.Yaml.Value
import Tagline.Proofs.Influence
import Tagline.Proofs.Listing
import Tagline.Proofs.TagMeaning
import Tagline.Proofs.Binding
import Tagline.Proofs.HostPath
import Tagline.Proofs.TableHistory
import Tagline.Proofs.TableRoutes
import Tagline.Proofs.FragmentTags
import Tagline.Proofs.Yaml.Scalars
import Tagline.Proofs.Yaml.Readers
import Tagline.Proofs.Yaml.Tokens
import Tagline.Proofs.OptionsBlock
import Tagline.Proofs.Text.Parts
import Tagline.Proofs.LinePatterns
import Tagline.Proofs.Channels
import Tagline.Proofs.Registration
import Tagline.Proofs.BodyLines
import Tagline.Proofs.MarkupValue
import Tagline.Proofs.Yaml.FlatScalar
import Tagline.Proofs.Yaml.FlatMapping
import Tagline.Proofs.Yaml.FlatDocument
import Tagline.Proofs.LoopOptions
import Tagline.Proofs.SettingsYaml
import Tagline.Proofs.AttributeReader
import Tagline.Proofs.ExpansionLog
import Tagline.Proofs.TerminatorOrder

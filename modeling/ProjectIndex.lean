import ProjectIndex.Classify.Basic
import ProjectIndex.Classify.Classifier
import ProjectIndex.Classify.Name
import ProjectIndex.Classify.Path
import ProjectIndex.Config.Basic
import ProjectIndex.Config.Build
import ProjectIndex.Config.Check
import ProjectIndex.Config.Env
import ProjectIndex.Config.File
import ProjectIndex.Config.Starter
import ProjectIndex.Data.Json
import ProjectIndex.Data.Value
import ProjectIndex.Digest.Sha256
import ProjectIndex.Glob
import ProjectIndex.Graph
import ProjectIndex.Heuristic.Evidence
import ProjectIndex.Heuristic.Score
import ProjectIndex.Index.File
import ProjectIndex.Index.Folder
import ProjectIndex.Index.Naming
import ProjectIndex.Index.Project
import ProjectIndex.Keyword.Normalizer
import ProjectIndex.Keyword.Split
import ProjectIndex.Main
import ProjectIndex.Module.Declarations
import ProjectIndex.Module.Exports
import ProjectIndex.Module.Imports
import ProjectIndex.Module.Props
import ProjectIndex.Module.Surface
import ProjectIndex.Number.FloatText
import ProjectIndex.Number.Shortest
import ProjectIndex.Path.Posix
import ProjectIndex.Proofs.ApiMethods
import ProjectIndex.Proofs.CallGraph
import ProjectIndex.Proofs.ComponentProps
import ProjectIndex.Proofs.Confidence
import ProjectIndex.Proofs.ConfigRefusals
import ProjectIndex.Proofs.Detection
import ProjectIndex.Proofs.Determinism
import ProjectIndex.Proofs.Discovery
import ProjectIndex.Proofs.EnvReferences
import ProjectIndex.Proofs.Folders
import ProjectIndex.Proofs.GlobLanguage
import ProjectIndex.Proofs.IdentifierWords
import ProjectIndex.Proofs.Keywords
import ProjectIndex.Proofs.Linking
import ProjectIndex.Proofs.Locality
import ProjectIndex.Proofs.LongestFirst
import ProjectIndex.Proofs.MigrationTables
import ProjectIndex.Proofs.NameStyles
import ProjectIndex.Proofs.Outcomes
import ProjectIndex.Proofs.PathDecision
import ProjectIndex.Proofs.Report
import ProjectIndex.Proofs.Resolution
import ProjectIndex.Proofs.Roles
import ProjectIndex.Proofs.RoutePaths
import ProjectIndex.Proofs.Scores
import ProjectIndex.Proofs.Selection
import ProjectIndex.Proofs.SqlComments
import ProjectIndex.Proofs.SqlFiles
import ProjectIndex.Proofs.StrictParse
import ProjectIndex.Proofs.TableBodies
import ProjectIndex.Proofs.Thresholds
import ProjectIndex.Proofs.WalkOrder
import ProjectIndex.Role
import ProjectIndex.Script.Cursor
import ProjectIndex.Script.Document
import ProjectIndex.Script.Parse
import ProjectIndex.Script.Rules
import ProjectIndex.Script.Syntax.Class
import ProjectIndex.Script.Syntax.Declaration
import ProjectIndex.Script.Syntax.Expression
import ProjectIndex.Script.Syntax.Markup
import ProjectIndex.Script.Syntax.Module
import ProjectIndex.Script.Syntax.Pattern
import ProjectIndex.Script.Syntax.Statement
import ProjectIndex.Script.Syntax.Type
import ProjectIndex.Script.Token
import ProjectIndex.Script.Tree
import ProjectIndex.Source.Error
import ProjectIndex.Source.Language
import ProjectIndex.Source.Unit
import ProjectIndex.Source.Utf8
import ProjectIndex.Sql.Reader
import ProjectIndex.Sql.Schema
import ProjectIndex.Text.Blank
import ProjectIndex.Text.Case
import ProjectIndex.Text.Pattern
import ProjectIndex.Text.Printable
import ProjectIndex.Text.Ranges
import ProjectIndex.Text.Span
import ProjectIndex.Text.WordChar
import ProjectIndex.Toml.Load
import ProjectIndex.Toml.Read
import ProjectIndex.Toml.Scan
import ProjectIndex.Toml.Text
import ProjectIndex.Toml.Write

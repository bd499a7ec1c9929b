import DeploymentRecipes.Application
import DeploymentRecipes.Catalog.Basic
import DeploymentRecipes.Catalog.Diagnostic
import DeploymentRecipes.Catalog.Document
import DeploymentRecipes.Catalog.Publication
import DeploymentRecipes.Catalog.Shipped
import DeploymentRecipes.Command.Arguments
import DeploymentRecipes.Command.Report
import DeploymentRecipes.Config.Basic
import DeploymentRecipes.Config.EnvFile
import DeploymentRecipes.Dependency.Graph
import DeploymentRecipes.Dependency.OfSettings
import DeploymentRecipes.File.Path
import DeploymentRecipes.File.Pattern
import DeploymentRecipes.File.Place
import DeploymentRecipes.File.Search
import DeploymentRecipes.File.Tree
import DeploymentRecipes.Journal
import DeploymentRecipes.Json.Printer
import DeploymentRecipes.Json.Reader
import DeploymentRecipes.Json.Strict
import DeploymentRecipes.Json.Token
import DeploymentRecipes.LogLevel
import DeploymentRecipes.Main
import DeploymentRecipes.Manifest.Basic
import DeploymentRecipes.Manifest.Text
import DeploymentRecipes.Manifest.Update
import DeploymentRecipes.Number.Binary64
import DeploymentRecipes.Number.Numeral
import DeploymentRecipes.Number.Shortest
import DeploymentRecipes.Proofs.Application.Recency
import DeploymentRecipes.Proofs.Catalog.Coverage
import DeploymentRecipes.Proofs.Catalog.Freshness
import DeploymentRecipes.Proofs.Catalog.Loading
import DeploymentRecipes.Proofs.Catalog.PlainFile
import DeploymentRecipes.Proofs.Catalog.Publication
import DeploymentRecipes.Proofs.Catalog.Reading
import DeploymentRecipes.Proofs.Catalog.Scan
import DeploymentRecipes.Proofs.Catalog.SearchPaths
import DeploymentRecipes.Proofs.Catalog.Session
import DeploymentRecipes.Proofs.Catalog.SettingPaths
import DeploymentRecipes.Proofs.Catalog.Strictness
import DeploymentRecipes.Proofs.Command.Strictness
import DeploymentRecipes.Proofs.Config.Precedence
import DeploymentRecipes.Proofs.Dependency.BackEdge
import DeploymentRecipes.Proofs.Dependency.Cycle
import DeploymentRecipes.Proofs.Dependency.OfSettings
import DeploymentRecipes.Proofs.File.Path
import DeploymentRecipes.Proofs.File.Relative
import DeploymentRecipes.Proofs.File.Search
import DeploymentRecipes.Proofs.File.Tree
import DeploymentRecipes.Proofs.Json.Cut
import DeploymentRecipes.Proofs.Json.RoundTrip
import DeploymentRecipes.Proofs.Manifest.History
import DeploymentRecipes.Proofs.Manifest.RoundTrip
import DeploymentRecipes.Proofs.Manifest.SavedProjects
import DeploymentRecipes.Proofs.Number.Decimal
import DeploymentRecipes.Proofs.Number.Integer
import DeploymentRecipes.Proofs.Number.Nearest
import DeploymentRecipes.Proofs.Number.Rounding
import DeploymentRecipes.Proofs.Recipe.Review
import DeploymentRecipes.Proofs.Recommendation.Acceptance
import DeploymentRecipes.Proofs.Recommendation.BulkSet
import DeploymentRecipes.Proofs.Recommendation.Evaluation
import DeploymentRecipes.Proofs.Recommendation.Independence
import DeploymentRecipes.Proofs.Recommendation.LeastGreatest
import DeploymentRecipes.Proofs.Recommendation.ObjectValue
import DeploymentRecipes.Proofs.Recommendation.Reapplication
import DeploymentRecipes.Proofs.Recommendation.Redeployment
import DeploymentRecipes.Proofs.Recommendation.References
import DeploymentRecipes.Proofs.Recommendation.Refusal
import DeploymentRecipes.Proofs.Recommendation.Run
import DeploymentRecipes.Proofs.Recommendation.Seeding
import DeploymentRecipes.Proofs.Recommendation.TaskSizes
import DeploymentRecipes.Proofs.Recommendation.Validated
import DeploymentRecipes.Proofs.Recommendation.Validation
import DeploymentRecipes.Proofs.Result
import DeploymentRecipes.Proofs.Setting.Address
import DeploymentRecipes.Proofs.Setting.Agreement
import DeploymentRecipes.Proofs.Setting.Evaluation
import DeploymentRecipes.Proofs.Setting.Lookup
import DeploymentRecipes.Proofs.Setting.Pinned
import DeploymentRecipes.Proofs.Setting.Place
import DeploymentRecipes.Proofs.Setting.Reached
import DeploymentRecipes.Proofs.Setting.Refusal
import DeploymentRecipes.Proofs.Setting.Spelling
import DeploymentRecipes.Proofs.Setting.Tree
import DeploymentRecipes.Proofs.ShellWords
import DeploymentRecipes.Proofs.Text.Replacement
import DeploymentRecipes.Proofs.Text.Split
import DeploymentRecipes.Proofs.Token.Occurrence
import DeploymentRecipes.Proofs.Token.Replacement
import DeploymentRecipes.Proofs.Validator.BlockedOptions
import DeploymentRecipes.Proofs.Validator.Building
import DeploymentRecipes.Proofs.Validator.Payloads
import DeploymentRecipes.Proofs.Validator.RangeCheck
import DeploymentRecipes.Proofs.Value.Conversion
import DeploymentRecipes.Proofs.Value.Digits
import DeploymentRecipes.Proofs.Value.Entries
import DeploymentRecipes.Recipe.Basic
import DeploymentRecipes.Recipe.Reader
import DeploymentRecipes.Recipe.Review
import DeploymentRecipes.Recommendation
import DeploymentRecipes.Regex.CharacterName
import DeploymentRecipes.Regex.Matcher
import DeploymentRecipes.Regex.Pattern
import DeploymentRecipes.Regex.Reader
import DeploymentRecipes.Schema.Checked
import DeploymentRecipes.Schema.Field
import DeploymentRecipes.Setting.Basic
import DeploymentRecipes.Setting.Override
import DeploymentRecipes.Setting.Path
import DeploymentRecipes.Setting.Reader
import DeploymentRecipes.Setting.Resolution
import DeploymentRecipes.ShellWords
import DeploymentRecipes.Text.Base64
import DeploymentRecipes.Text.CaseTable
import DeploymentRecipes.Text.Classes
import DeploymentRecipes.Text.CodePoints
import DeploymentRecipes.Text.LetterCase
import DeploymentRecipes.Text.Name
import DeploymentRecipes.Text.PrintableTable
import DeploymentRecipes.Text.Quoted
import DeploymentRecipes.Text.Substring
import DeploymentRecipes.Text.Utf8
import DeploymentRecipes.Text.WordTable
import DeploymentRecipes.Token
import DeploymentRecipes.Validator.Basic
import DeploymentRecipes.Validator.RecipeCheck
import DeploymentRecipes.Validator.Registry
import DeploymentRecipes.Validator.SettingCheck
import DeploymentRecipes.Value.Basic
import DeploymentRecipes.Value.Conversion
import DeploymentRecipes.Value.Shown
import DeploymentRecipes.Value.Timestamp
import DeploymentRecipes.Yaml.Construct
import DeploymentRecipes.Yaml.Cursor
import DeploymentRecipes.Yaml.Fault
import DeploymentRecipes.Yaml.Node
import DeploymentRecipes.Yaml.Property
import DeploymentRecipes.Yaml.Scalar
import DeploymentRecipes.Yaml.Source
import DeploymentRecipes.Yaml.Tag
import DeploymentRecipes.Yaml.Token

import Workflow.Cli.Args
import Workflow.Cli.Run
import Workflow.Cli.Similar
import Workflow.Cli.Spec
import Workflow.Condition.Cache
import Workflow.Condition.Eval
import Workflow.Condition.Parser
import Workflow.Condition.Syntax
import Workflow.Decimal.Binary
import Workflow.Decimal.Read
import Workflow.Decimal.Shortest
import Workflow.Decimal.Text
import Workflow.Document.Basic
import Workflow.Document.Json
import Workflow.Document.Value
import Workflow.Error
import Workflow.Files.Access
import Workflow.Files.Tree
import Workflow.Json.Decode
import Workflow.Json.Reader
import Workflow.Json.Value
import Workflow.Json.Writer
import Workflow.Kernel.Config
import Workflow.Kernel.ConfigFile
import Workflow.Kernel.Debug
import Workflow.Kernel.Error
import Workflow.Kernel.Extension
import Workflow.Kernel.Loader
import Workflow.Kernel.Process
import Workflow.Kernel.Runtime
import Workflow.Main
import Workflow.Model.Checksum
import Workflow.Model.Decl
import Workflow.Model.Decode
import Workflow.Model.Encode
import Workflow.Model.Graph
import Workflow.Model.Navigation
import Workflow.Model.Registry
import Workflow.Pattern.Match
import Workflow.Pattern.Parse
import Workflow.Pattern.Syntax
import Workflow.Text.Blank
import Workflow.Text.Case
import Workflow.Text.Category
import Workflow.Text.Fold
import Workflow.Text.Letter
import Workflow.Text.Property
import Workflow.Text.Ranges
import Workflow.Text.Script
import Workflow.Time.Instant
import Workflow.Yaml.Decode
import Workflow.Yaml.Document
import Workflow.Yaml.Event
import Workflow.Yaml.Node
import Workflow.Yaml.Token
import Workflow.Yaml.Token.Lexer
import Workflow.Proofs.Caches
import Workflow.Proofs.Members
import Workflow.Proofs.Resolution
import Workflow.Proofs.Transitions
import Workflow.Proofs.Search
import Workflow.Proofs.NextElement
import Workflow.Proofs.LinkTransparency
import Workflow.Proofs.Items
import Workflow.Proofs.Normalize
import Workflow.Proofs.Trace
import Workflow.Proofs.Chaining
import Workflow.Proofs.Queue
import Workflow.Proofs.NavigationEffects
import Workflow.Proofs.Journal
import Workflow.Proofs.Stamps
import Workflow.Proofs.Prediction
import Workflow.Proofs.DocumentShape
import Workflow.Proofs.FiniteFloat
import Workflow.Proofs.DocumentJson
import Workflow.Proofs.RegistryContract
import Workflow.Proofs.ConditionGrammar
import Workflow.Proofs.ConditionTokens
import Workflow.Proofs.ConditionParse
import Workflow.Proofs.ModelJson
import Workflow.Proofs.Termination
import Workflow.Proofs.MainFlow
import Workflow.Proofs.TaskEvents
import Workflow.Proofs.GraphViews
import Workflow.Proofs.ResolutionOrder
import Workflow.Proofs.PendingQueue
import Workflow.Proofs.ItemNames
import Workflow.Proofs.GroupFallback
import Workflow.Proofs.Validation
import Workflow.Proofs.Registration
import Workflow.Proofs.PluginChain
import Workflow.Proofs.AdapterOrder
import Workflow.Proofs.TransitionLog
import Workflow.Proofs.ConditionCache
import Workflow.Proofs.ProcessOwner
import Workflow.Proofs.Reregistration
import Workflow.Proofs.DirectoryLoad
import Workflow.Proofs.ConditionSafety
import Workflow.Proofs.FieldResolution

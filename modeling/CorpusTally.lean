import CorpusTally.Main
import CorpusTally.Proofs.Agreement
import CorpusTally.Proofs.Accounts
import CorpusTally.Proofs.Guards
import CorpusTally.Proofs.Pool.Outcomes
import CorpusTally.Proofs.Pool.Shutdown
import CorpusTally.Proofs.Settings.Precedence
import CorpusTally.Proofs.Stages.Network
import CorpusTally.Proofs.Stopwords
import CorpusTally.Settings.Json
import CorpusTally.Proofs.Counting.Records
import CorpusTally.Proofs.Pool.Metrics
import CorpusTally.Proofs.Resolution
import CorpusTally.Proofs.Storage
import CorpusTally.Proofs.Course
import CorpusTally.Proofs.Status
import CorpusTally.Proofs.Interchange
import CorpusTally.Proofs.Counting.Cut
import CorpusTally.Proofs.Counting.Bounds
import CorpusTally.Proofs.Printing
import CorpusTally.Proofs.SharedStopwords.Callers
import CorpusTally.Proofs.SharedStopwords.Runs
import CorpusTally.Proofs.Counting.Division
import CorpusTally.Proofs.Normalizing
import CorpusTally.Proofs.Counting.Merging
import CorpusTally.Proofs.WordOrder
import CorpusTally.Proofs.Pool.Modes
import CorpusTally.Proofs.Tree.Replacing
import CorpusTally.Proofs.Selection
import CorpusTally.Proofs.Ignoring
import CorpusTally.Proofs.Composing
import CorpusTally.Proofs.Ranking
import CorpusTally.Proofs.Lending
import CorpusTally.Proofs.ListedLines
import CorpusTally.Proofs.Stages.Borrowing
import CorpusTally.Proofs.Settings.Layering
import CorpusTally.Proofs.Settings.Files
import CorpusTally.Proofs.Settings.Restoring
import CorpusTally.Proofs.Metering.Reading
import CorpusTally.Proofs.Separators

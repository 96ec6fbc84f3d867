import HiveTable.Main
import HiveTable.Clock
import HiveTable.Proofs.NameMap.Listing
import HiveTable.Proofs.NameMap.Refinement
import HiveTable.Proofs.NameMap.Copy
import HiveTable.Proofs.Overrides.Grammar
import HiveTable.Proofs.Writer.Coherence
import HiveTable.Proofs.Writer.Transparency
import HiveTable.Proofs.Event
import HiveTable.Proofs.Value.LongNumber
import HiveTable.Proofs.Writer.Faults
import HiveTable.Proofs.Resolution
import HiveTable.Proofs.SqlType
import HiveTable.Proofs.TimeOfDay.Grammar
import HiveTable.Proofs.TimeOfDay.Clock
import HiveTable.Proofs.Request
import HiveTable.Proofs.Writer.ColumnClause
import HiveTable.Proofs.Writer.Questions
import HiveTable.Proofs.Request.Columns
import HiveTable.Proofs.CommandLine
import HiveTable.Proofs.Writer.ReadBack
import HiveTable.Proofs.Script.Agreement
import HiveTable.Proofs.Script.AllOrNothing
import HiveTable.Proofs.Script.Place
import HiveTable.Proofs.Writer.OverrideOrder
import HiveTable.Proofs.Writer.Partition
import HiveTable.Proofs.Writer.Presentation
import HiveTable.Proofs.Request.Accepted
import HiveTable.Proofs.Writer.PartitionColumn
import HiveTable.Proofs.Writer.Storage

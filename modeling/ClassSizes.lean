import ClassSizes.CommandLine.Program
import ClassSizes.Files.Store
import ClassSizes.Json.Binding
import ClassSizes.Json.Reader
import ClassSizes.Main
import ClassSizes.Proofs.ClassName.Kernel
import ClassSizes.Proofs.CommandLine.Arguments
import ClassSizes.Proofs.CommandLine.Defaults
import ClassSizes.Proofs.CommandLine.Effects
import ClassSizes.Proofs.CommandLine.Precedence
import ClassSizes.Proofs.Csv.Codec
import ClassSizes.Proofs.Csv.Joining
import ClassSizes.Proofs.Csv.ReadFaults
import ClassSizes.Proofs.Csv.Spelling
import ClassSizes.Proofs.Files.Effects
import ClassSizes.Proofs.Files.Path
import ClassSizes.Proofs.Files.Run
import ClassSizes.Proofs.Files.Store
import ClassSizes.Proofs.Report.Canonical
import ClassSizes.Proofs.Report.Faults
import ClassSizes.Proofs.Report.Grammar
import ClassSizes.Proofs.Report.Joining
import ClassSizes.Proofs.Report.PhysicalLines
import ClassSizes.Proofs.Report.ReadBack
import ClassSizes.Proofs.Size
import ClassSizes.Proofs.Table.Lookup
import ClassSizes.Proofs.Table.Total
import ClassSizes.Proofs.Text.Lossy
import ClassSizes.Proofs.Toml.TopLevel

import RunCharts.CommandLine.Program
import RunCharts.Main
import RunCharts.Proofs.Analysis.Checks
import RunCharts.Proofs.Analysis.Collected
import RunCharts.Proofs.Analysis.Divisors
import RunCharts.Proofs.Analysis.Emission
import RunCharts.Proofs.Analysis.Found
import RunCharts.Proofs.Analysis.Marks
import RunCharts.Proofs.Analysis.Moved
import RunCharts.Proofs.Analysis.Outcome
import RunCharts.Proofs.Analysis.OwnFiles
import RunCharts.Proofs.Analysis.Pages
import RunCharts.Proofs.Analysis.Pairs
import RunCharts.Proofs.Analysis.Plan
import RunCharts.Proofs.Analysis.Printed
import RunCharts.Proofs.Analysis.Relabelled
import RunCharts.Proofs.Analysis.Relocated
import RunCharts.Proofs.Analysis.Reported
import RunCharts.Proofs.Analysis.Rerun
import RunCharts.Proofs.Analysis.Samples
import RunCharts.Proofs.Analysis.Script
import RunCharts.Proofs.Analysis.SharedFiles
import RunCharts.Proofs.Analysis.Sight
import RunCharts.Proofs.Analysis.TwoPhases
import RunCharts.Proofs.Analysis.Unread
import RunCharts.Proofs.Analysis.Untouched
import RunCharts.Proofs.Analysis.Verdict
import RunCharts.Proofs.Analysis.VerdictUnder
import RunCharts.Proofs.Chart.FittedRange
import RunCharts.Proofs.Chart.Grouped
import RunCharts.Proofs.Chart.Partition
import RunCharts.Proofs.FileQuery
import RunCharts.Proofs.Files.Find
import RunCharts.Proofs.Files.Growth
import RunCharts.Proofs.Files.Joined
import RunCharts.Proofs.Files.Leads
import RunCharts.Proofs.Files.Parent
import RunCharts.Proofs.Files.Relocation
import RunCharts.Proofs.Files.SameBut
import RunCharts.Proofs.Files.Steps
import RunCharts.Proofs.Files.Walk
import RunCharts.Proofs.Files.Way
import RunCharts.Proofs.Files.Written
import RunCharts.Proofs.FirstError
import RunCharts.Proofs.Float.AddZero
import RunCharts.Proofs.Float.Magnitude
import RunCharts.Proofs.Float.Nearest
import RunCharts.Proofs.Float.Whole
import RunCharts.Proofs.Json.Grammar
import RunCharts.Proofs.Json.Layout
import RunCharts.Proofs.Json.Number
import RunCharts.Proofs.Json.Printed
import RunCharts.Proofs.Log.Agreement
import RunCharts.Proofs.Log.Counts
import RunCharts.Proofs.Log.Endings
import RunCharts.Proofs.Log.FirstRefusal
import RunCharts.Proofs.Log.Peak
import RunCharts.Proofs.Log.Phases
import RunCharts.Proofs.Log.Records
import RunCharts.Proofs.Log.Reordered
import RunCharts.Proofs.Log.Replies
import RunCharts.Proofs.Log.Texts
import RunCharts.Proofs.Log.ThreadMark
import RunCharts.Proofs.Log.TimeShift
import RunCharts.Proofs.Numeral.Digits
import RunCharts.Proofs.Pdf.Printable
import RunCharts.Proofs.PlotData
import RunCharts.Proofs.RunningSum
import RunCharts.Proofs.Settings.Overlay
import RunCharts.Proofs.Settings.Record
import RunCharts.Proofs.Settings.Reordered
import RunCharts.Proofs.Text.Infix
import RunCharts.Proofs.Text.Octets
import RunCharts.Proofs.Text.Trim
import RunCharts.Proofs.Variant
import RunCharts.Proofs.Yaml.Digits

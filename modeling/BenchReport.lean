import BenchReport.Main
import BenchReport.Proofs.Chart.Dimensions
import BenchReport.Proofs.Chart.OwnData
import BenchReport.Proofs.Chart.Panels
import BenchReport.Proofs.Chart.Style
import BenchReport.Proofs.CommandLine
import BenchReport.Proofs.Json.Grammar
import BenchReport.Proofs.Manifest
import BenchReport.Proofs.Manifest.Availability
import BenchReport.Proofs.Run.Course
import BenchReport.Proofs.Run.Division
import BenchReport.Proofs.Run.Input
import BenchReport.Proofs.Run.Preparation
import BenchReport.Proofs.Run.Stems
import BenchReport.Proofs.Series.Partition
import BenchReport.Proofs.Settings.Reading
import BenchReport.Proofs.Summary.Agreement
import BenchReport.Proofs.Summary.Document
import BenchReport.Proofs.Summary.RoundTrip
import BenchReport.Proofs.Table.ColumnOrder
import BenchReport.Proofs.Table.FaultLines
import BenchReport.Proofs.Table.Shape
import BenchReport.Proofs.Text.Order
import BenchReport.Proofs.View.Columns
import BenchReport.Proofs.View.Finite
import BenchReport.Proofs.View.RowOrder
import BenchReport.Settings.Reading
import BenchReport.Proofs.Chart.Ticks
import BenchReport.Proofs.Summary.Aggregation
import BenchReport.Proofs.View.Locality
import BenchReport.Proofs.Manifest.Supersession
import BenchReport.Proofs.Chart.Bars
import BenchReport.Proofs.Chart.Looks
import BenchReport.Proofs.Chart.ValueAxis
import BenchReport.Proofs.View.Rederived

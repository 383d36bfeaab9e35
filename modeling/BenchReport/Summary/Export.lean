import BenchReport.Csv.Writer
import BenchReport.Json
import BenchReport.Summary

namespace BenchReport.Summary

def meanText : Option Double → String
  | none => ""
  | some x => x.text

def csvHeader (s : Summary) : List String :=
  [Column.treeType, Column.sortedness, Column.readRatio, "Trials"] ++ s.columns

def csvRow (r : SummaryRow) : List String :=
  [r.configuration.treeType, r.configuration.sortedness.text, r.configuration.readRatio.text,
    toString r.trials] ++ r.means.map meanText

def toCsv (s : Summary) : String := Csv.write (s.csvHeader :: s.rows.map csvRow)

def meanJson : Option Double → Json
  | none => .null
  | some x => .number x

def namedRow (columns : List String) (r : SummaryRow) : Json :=
  .object
    [("means", .ofNames (columns.zip (r.means.map meanJson))),
      ("read_ratio", .number r.configuration.readRatio),
      ("sortedness", .number r.configuration.sortedness),
      ("tree_type", .text r.configuration.treeType),
      ("trials", .natural r.trials)]

def toJson (s : Summary) : String :=
  String.ofList <| Json.indented 0 <|
    .object [("columns", .list (s.columns.map .text)),
      ("rows", .list (s.rows.map (namedRow s.columns)))]

def plainRow (r : SummaryRow) : Json :=
  .object
    [("tree_type", .text r.configuration.treeType),
      ("sortedness", .number r.configuration.sortedness),
      ("read_ratio", .number r.configuration.readRatio),
      ("trials", .natural r.trials),
      ("means", .list (r.means.map meanJson))]

def serialize (s : Summary) : String :=
  String.ofList <| Json.compact <|
    .object [("columns", .list (s.columns.map .text)), ("rows", .list (s.rows.map plainRow))]

end BenchReport.Summary

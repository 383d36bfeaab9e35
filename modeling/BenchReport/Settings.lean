import BenchReport.Json
import BenchReport.Path
import BenchReport.Text.Blank
import BenchReport.View

namespace BenchReport

def defaultInput : Path := "btree_benchmark.csv"

structure Settings where
  input : Path := defaultInput
  outputDir : Path := "."
  trialCount : Option UInt64 := none
  baseline : String := defaultBaseline
  vectorOutput : Bool := false
  summary : Bool := false
deriving DecidableEq

inductive SettingsFault where
  | noTrials
  | emptyBaseline
deriving DecidableEq

namespace SettingsFault

def message : SettingsFault → String
  | noTrials => "Invalid trial count: trial count must be at least 1"
  | emptyBaseline => "Baseline tree type must not be empty"

def wrapped (f : SettingsFault) : String := "configuration error: " ++ f.message

end SettingsFault

namespace Settings

def outputPath (s : Settings) (name : String) : Path := Path.join s.outputDir name

def deriveOptions (s : Settings) : DeriveOptions := ⟨s.trialCount, s.baseline⟩

def validate (s : Settings) : Except SettingsFault Unit :=
  if s.trialCount = some 0 then .error .noTrials
  else if (Text.trim s.baseline).isEmpty then .error .emptyBaseline
  else .ok ()

def toJson (s : Settings) : Json :=
  .object <|
    [("input", .text s.input), ("output_dir", .text s.outputDir)] ++
    (s.trialCount.toList.map fun n => ("trial_count", .natural n.toNat)) ++
    [("baseline", .text s.baseline), ("vector_output", .bool s.vectorOutput),
      ("summary", .bool s.summary)]

def serialize (s : Settings) : String := String.ofList s.toJson.compact

end Settings

end BenchReport

import BenchReport.Chart.Raster
import BenchReport.Chart.Svg
import BenchReport.Command
import BenchReport.Image.Png
/-!
The program on the disk of the machine. What a run looks at is read first, the run is carried out on
that, and what it has changed is written back.
-/

namespace BenchReport.Machine

def artist : Artist where
  raster c := .drawn (Png.encode (Raster.image c.draw))
  vector c := .drawn (Text.toBytes (Svg.document c.draw))

def pathOf (p : Place) : String := if p = .root then "/" else p.text

def lookAt (p : Place) : IO (Option DiskEntry) := do
  let path := (← IO.currentDir) / pathOf p
  if ← path.isDir then return some .directory
  else if ← path.pathExists then return some (.file (← IO.FS.readBinFile path).toList)
  else return none

def explore (d : Disk) (p : Place) : List (List Char) → IO Disk
  | [] => return d
  | piece :: pieces => do
    let next :=
      if Path.isIdle piece then p
      else if piece = ['.', '.'] then p.parent
      else p.child piece
    match ← lookAt next with
    | none => explore d next pieces
    | some e => explore (d.put next e) next pieces

def disk (paths : List Path) : IO Disk := do
  let names := ((← IO.currentDir).toString.splitOn "/").filter (!·.isEmpty)
  paths.foldlM (fun d path => explore d (d.start path) (Path.pieces path.toList)) (.bare names)

def writeBack (before after : Disk) : IO Unit :=
  after.entries.reverse.forM fun (p, e) =>
    if before.find? p = some e then return ()
    else
      match e with
      | .directory => IO.FS.createDir (pathOf p)
      | .file content => IO.FS.writeBinFile (pathOf p) content.toByteArray

def usage : List String :=
  ["Usage: btree-report [OPTIONS] [INPUT]",
    "",
    "  -o, --output-dir <OUTPUT_DIR>    Directory charts are written to",
    "      --trial-count <TRIAL_COUNT>  Operations per benchmark row",
    "      --baseline <BASELINE>        Tree type that speedups are measured against",
    "      --svg                        Also write an SVG copy of every chart",
    "      --summary                    Write summary.csv and summary.json",
    "  -v, --verbose                    Enable verbose logging",
    "  -h, --help                       Print help",
    "  -V, --version                    Print version"]

def explain : UsageFault → IO Unit
  | .displayVersion => return ()
  | .displayHelp => usage.forM IO.println
  | _ => usage.forM IO.eprintln

end BenchReport.Machine

open BenchReport in
def main (arguments : List String) : IO UInt32 := do
  let env : Environment :=
    ⟨← IO.getEnv "BTREE_REPORT_OUTPUT_DIR", ← IO.getEnv "BTREE_REPORT_TRIAL_COUNT"⟩
  let parsed := CommandLine.parse arguments env
  let before ←
    match parsed with
    | .error f => do Machine.explain f; Machine.disk []
    | .ok c => Machine.disk (c.settings.input :: c.settings.outputDir ::
        Run.targets c.settings .standard)
  let ending := execute Machine.artist arguments env before
  Machine.writeBack before ending.disk
  let verbose := match parsed with
    | .ok c => c.verbose
    | .error _ => false
  (ending.events.filter fun e => verbose || e.level = .warn).forM fun e => IO.eprintln e.line
  ending.output.forM IO.println
  ending.errors.forM IO.eprintln
  return UInt32.ofNat ending.status

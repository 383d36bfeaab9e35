import BenchReport.Settings
/-!
The command line: at most one input path, options with a value, and flags. The value of an option or
of the input is looked at when the next known argument comes, so an unknown one right behind it is
what gets reported. The environment stands in for two options that are not given.
-/

namespace BenchReport

inductive UsageFault where
  | unknownArgument
  | invalidValue
  | valueValidation
  | argumentConflict
  | tooManyValues
  | displayHelp
  | displayVersion
deriving DecidableEq

structure Environment where
  outputDir : Option String := none
  trialCount : Option String := none

inductive Argument where
  | input
  | outputDir
  | trialCount
  | baseline
deriving DecidableEq

inductive Flag where
  | svg
  | summary
  | verbose
  | help
  | version
deriving DecidableEq

structure Given where
  input : Option Path := none
  outputDir : Option Path := none
  trialCount : Option UInt64 := none
  baseline : Option String := none
  svg : Bool := false
  summary : Bool := false
  verbose : Bool := false

namespace Given

def readTrialCount (text : String) : Except UsageFault UInt64 :=
  let ds := match text.toList with
    | '+' :: ds => ds
    | ds => ds
  let n := Numeral.digitsValue ds
  if ds.isEmpty ∨ !ds.all Char.isDigit ∨ UInt64.size ≤ n then .error .valueValidation
  else .ok (UInt64.ofNat n)

def readPath (text : String) : Except UsageFault Path :=
  if text.isEmpty then .error .invalidValue else .ok text

def take (g : Given) (a : Argument) (value : String) : Except UsageFault Given :=
  match a with
  | .input =>
    if g.input.isSome then .error .argumentConflict
    else (readPath value).map fun p => { g with input := some p }
  | .outputDir =>
    if g.outputDir.isSome then .error .argumentConflict
    else (readPath value).map fun p => { g with outputDir := some p }
  | .trialCount =>
    if g.trialCount.isSome then .error .argumentConflict
    else (readTrialCount value).map fun n => { g with trialCount := some n }
  | .baseline =>
    if g.baseline.isSome then .error .argumentConflict
    else .ok { g with baseline := some value }

def raise (g : Given) : Flag → Except UsageFault Given
  | .svg => if g.svg then .error .argumentConflict else .ok { g with svg := true }
  | .summary => if g.summary then .error .argumentConflict else .ok { g with summary := true }
  | .verbose => if g.verbose then .error .argumentConflict else .ok { g with verbose := true }
  | .help => .error .displayHelp
  | .version => .error .displayVersion

end Given

structure Pending where
  argument : Argument
  value : Option String

structure Parse where
  given : Given := {}
  pending : Option Pending := none
  inputSeen : Bool := false
  trailing : Bool := false

namespace Parse

def settle (p : Parse) : Except UsageFault Given :=
  match p.pending with
  | none => .ok p.given
  | some ⟨_, none⟩ => .error .invalidValue
  | some ⟨a, some value⟩ => p.given.take a value

def settled (p : Parse) (g : Given) : Parse := { p with given := g, pending := none }

def raise (p : Parse) (f : Flag) : Except UsageFault Parse := do
  let g ← p.settle
  return p.settled (← g.raise f)

def option (p : Parse) (a : Argument) (value : Option String) : Except UsageFault Parse := do
  let g ← p.settle
  match value with
  | some v => return p.settled (← g.take a v)
  | none => return { p.settled g with pending := some ⟨a, none⟩ }

def input (p : Parse) (value : String) : Except UsageFault Parse :=
  if p.inputSeen then .error .unknownArgument
  else do
    let g ← p.settle
    return { p.settled g with pending := some ⟨.input, some value⟩, inputSeen := true }

def word (p : Parse) (value : String) : Except UsageFault Parse :=
  match p.pending with
  | some ⟨a, none⟩ => .ok { p with pending := some ⟨a, some value⟩ }
  | _ => p.input value

def flag (p : Parse) (f : Flag) (value : Option String) : Except UsageFault Parse :=
  if value.isSome then .error .tooManyValues else p.raise f

def long (p : Parse) (name : String) (value : Option String) : Except UsageFault Parse :=
  match name with
  | "output-dir" => p.option .outputDir value
  | "trial-count" => p.option .trialCount value
  | "baseline" => p.option .baseline value
  | "svg" => p.flag .svg value
  | "summary" => p.flag .summary value
  | "verbose" => p.flag .verbose value
  | "help" => p.flag .help value
  | "version" => p.flag .version value
  | _ => .error .unknownArgument

def short (p : Parse) : List Char → Except UsageFault Parse
  | [] => .ok p
  | c :: cs =>
    match c with
    | 'o' =>
      match cs with
      | [] => p.option .outputDir none
      | '=' :: value => p.option .outputDir (some (String.ofList value))
      | value => p.option .outputDir (some (String.ofList value))
    | 'v' => do (← p.raise .verbose).short cs
    | 'h' => p.raise .help
    | 'V' => p.raise .version
    | _ => .error .unknownArgument

def splitValue (cs : List Char) : String × Option String :=
  let name := cs.takeWhile (· ≠ '=')
  match cs.dropWhile (· ≠ '=') with
  | [] => (String.ofList name, none)
  | _ :: value => (String.ofList name, some (String.ofList value))

def step (p : Parse) (argument : String) : Except UsageFault Parse :=
  if p.trailing then p.input argument
  else
    match argument.toList with
    | ['-', '-'] => .ok { p with trailing := true }
    | '-' :: '-' :: cs => p.long (splitValue cs).1 (splitValue cs).2
    | '-' :: c :: cs => p.short (c :: cs)
    | _ => p.word argument

end Parse

structure CommandLine where
  settings : Settings
  verbose : Bool
deriving DecidableEq

namespace CommandLine

def withEnvironment (g : Given) (env : Environment) : Except UsageFault Given := do
  let outputDir ←
    match g.outputDir, env.outputDir with
    | none, some text => (Given.readPath text).map some
    | given, _ => .ok given
  let trialCount ←
    match g.trialCount, env.trialCount with
    | none, some text => (Given.readTrialCount text).map some
    | given, _ => .ok given
  return { g with outputDir, trialCount }

def ofGiven (g : Given) : CommandLine where
  settings :=
    { input := g.input.getD defaultInput
      outputDir := g.outputDir.getD "."
      trialCount := g.trialCount
      baseline := g.baseline.getD defaultBaseline
      vectorOutput := g.svg
      summary := g.summary }
  verbose := g.verbose

def parse (arguments : List String) (env : Environment) : Except UsageFault CommandLine := do
  let p ← arguments.foldlM Parse.step {}
  return ofGiven (← withEnvironment (← p.settle) env)

end CommandLine

end BenchReport

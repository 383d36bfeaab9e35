import BenchReport.CommandLine
import BenchReport.Proofs.Except
import Mathlib.Data.List.Forall2
import Mathlib.Data.List.Nodup

namespace BenchReport

namespace Argument

def names : Argument → List String
  | input => []
  | outputDir => ["--output-dir", "-o"]
  | trialCount => ["--trial-count"]
  | baseline => ["--baseline"]

def longNames : Argument → List String
  | input => []
  | outputDir => ["--output-dir"]
  | trialCount => ["--trial-count"]
  | baseline => ["--baseline"]

end Argument

namespace Flag

def names : Flag → List String
  | svg => ["--svg"]
  | summary => ["--summary"]
  | verbose => ["--verbose", "-v"]
  | help | version => []

end Flag

namespace Given

inductive Part where
  | argument (a : Argument)
  | flag (f : Flag)
deriving DecidableEq

def allParts : List Part :=
  [.argument .input, .argument .outputDir, .argument .trialCount, .argument .baseline, .flag .svg,
    .flag .summary, .flag .verbose]

def SpellsCount (text : String) (n : UInt64) : Prop :=
  ∃ ds, (text.toList = ds ∨ text.toList = '+' :: ds) ∧ ds ≠ [] ∧ (∀ c ∈ ds, c.isDigit) ∧
    Numeral.digitsValue ds = n.toNat

def IsValue (text : String) : Prop := ∃ c cs, text.toList = c :: cs ∧ c ≠ '-'

section Parts

variable (g : Given)

def Holds : Argument → String → Prop
  | .input, text => g.input = some text
  | .outputDir, text => g.outputDir = some text
  | .trialCount, text => ∃ n, g.trialCount = some n ∧ SpellsCount text n
  | .baseline, text => g.baseline = some text

def Raises : Flag → Prop
  | .svg => g.svg
  | .summary => g.summary
  | .verbose => g.verbose
  | .help | .version => False

inductive Places : Part → List String → Prop
  | input {text : String} : IsValue text → g.Holds .input text →
    Places (.argument .input) [text]
  | apart {a : Argument} {name text : String} : name ∈ a.names → IsValue text → g.Holds a text →
    Places (.argument a) [name, text]
  | joined {a : Argument} {name text : String} : name ∈ a.longNames → text ≠ "" → g.Holds a text →
    Places (.argument a) [name ++ "=" ++ text]
  | flag {f : Flag} {name : String} : name ∈ f.names → g.Raises f → Places (.flag f) [name]

def has : Part → Bool
  | .argument .input => g.input.isSome
  | .argument .outputDir => g.outputDir.isSome
  | .argument .trialCount => g.trialCount.isSome
  | .argument .baseline => g.baseline.isSome
  | .flag .svg => g.svg
  | .flag .summary => g.summary
  | .flag .verbose => g.verbose
  | .flag .help | .flag .version => false

def parts : List Part := allParts.filter g.has

def only (done : List Part) : Given where
  input := if .argument .input ∈ done then g.input else none
  outputDir := if .argument .outputDir ∈ done then g.outputDir else none
  trialCount := if .argument .trialCount ∈ done then g.trialCount else none
  baseline := if .argument .baseline ∈ done then g.baseline else none
  svg := .flag .svg ∈ done && g.svg
  summary := .flag .summary ∈ done && g.summary
  verbose := .flag .verbose ∈ done && g.verbose

end Parts

def unsigned : List Char → List Char
  | '+' :: ds => ds
  | ds => ds

theorem unsigned_cases (cs : List Char) : cs = unsigned cs ∨ cs = '+' :: unsigned cs := by
  unfold unsigned
  split <;> simp

theorem unsigned_of_isDigit (cs ds : List Char) (h : cs = ds ∨ cs = '+' :: ds)
    (hds : ∀ c ∈ ds, c.isDigit) : unsigned cs = ds := by
  rcases h with rfl | rfl
  · unfold unsigned
    split
    · simp at hds
    · rfl
  · rfl

theorem readTrialCount_eq_ok_iff (text : String) (n : UInt64) :
    readTrialCount text = .ok n ↔ SpellsCount text n := by
  have hread : readTrialCount text =
      if (unsigned text.toList).isEmpty ∨ !(unsigned text.toList).all Char.isDigit ∨
        UInt64.size ≤ Numeral.digitsValue (unsigned text.toList) then .error .valueValidation
      else .ok (UInt64.ofNat (Numeral.digitsValue (unsigned text.toList))) := rfl
  have hspells : SpellsCount text n ↔ unsigned text.toList ≠ [] ∧
      (∀ c ∈ unsigned text.toList, c.isDigit) ∧
        Numeral.digitsValue (unsigned text.toList) = n.toNat := by
    constructor
    · rintro ⟨ds, htext, hds⟩
      rwa [unsigned_of_isDigit _ ds htext hds.2.1]
    · intro h
      exact ⟨_, unsigned_cases _, h⟩
  have hvalue (v : Nat) : v < UInt64.size ∧ UInt64.ofNat v = n ↔ v = n.toNat := by
    constructor
    · rintro ⟨hv, rfl⟩
      exact (UInt64.toNat_ofNat_of_lt' hv).symm
    · rintro rfl
      exact ⟨n.toNat_lt, UInt64.ofNat_toNat⟩
  rw [hread, hspells, ← hvalue]
  generalize unsigned text.toList = ds
  split_ifs with h
  · simp only [List.isEmpty_iff, Bool.not_eq_true', List.all_eq_false] at h
    grind
  · simp only [List.isEmpty_iff, Bool.not_eq_true', List.all_eq_false] at h
    grind

theorem readPath_of_ne (text : String) (h : text ≠ "") : readPath text = .ok text := by
  rw [readPath, if_neg (by simpa using h)]

theorem IsValue.ne_empty {text : String} (h : IsValue text) : text ≠ "" := by
  rintro rfl
  obtain ⟨c, cs, htext, -⟩ := h
  exact nomatch htext

section Reading

variable {g : Given} {done : List Part}

theorem take_only {a : Argument} {text : String} (h : g.Holds a text) (htext : text ≠ "")
    (hnew : .argument a ∉ done) :
    (g.only done).take a text = .ok (g.only (done ++ [.argument a])) := by
  have hpath := readPath_of_ne text htext
  cases a with
  | input =>
    have hinput : g.input = some text := h
    simp [take, only, hnew, hpath, hinput, Except.map]
  | outputDir =>
    have houtputDir : g.outputDir = some text := h
    simp [take, only, hnew, hpath, houtputDir, Except.map]
  | trialCount =>
    obtain ⟨n, htrials, hspells⟩ := h
    have hread := (readTrialCount_eq_ok_iff text n).mpr hspells
    simp [take, only, hnew, hread, htrials, Except.map]
  | baseline =>
    have hbaseline : g.baseline = some text := h
    simp [take, only, hnew, hbaseline]

theorem raise_only {f : Flag} (h : g.Raises f) (hnew : .flag f ∉ done) :
    (g.only done).raise f = .ok (g.only (done ++ [.flag f])) := by
  cases f with
  | svg =>
    have hsvg : g.svg = true := h
    simp [raise, only, hnew, hsvg]
  | summary =>
    have hsummary : g.summary = true := h
    simp [raise, only, hnew, hsummary]
  | verbose =>
    have hverbose : g.verbose = true := h
    simp [raise, only, hnew, hverbose]
  | help => exact h.elim
  | version => exact h.elim

end Reading

end Given

namespace Parse

variable {p : Parse} (hp : p.trailing = false)

include hp

theorem step_value {text : String} (h : Given.IsValue text) : p.step text = p.word text := by
  obtain ⟨c, cs, htext, hc⟩ := h
  simp [step, hp, htext, hc]

theorem step_name {a : Argument} {name : String} (h : name ∈ a.names) :
    p.step name = p.option a none := by
  rw [step, hp]
  cases a <;> simp only [Argument.names, List.mem_cons, List.not_mem_nil, or_false] at h
  case outputDir => rcases h with rfl | rfl <;> rfl
  case trialCount | baseline =>
    subst h
    rfl

theorem step_joined {a : Argument} {name : String} (h : name ∈ a.longNames) (text : String) :
    p.step (name ++ "=" ++ text) = p.option a (some text) := by
  cases a <;> simp only [Argument.longNames, List.mem_cons, List.not_mem_nil, or_false] at h
  all_goals
    subst h
    simp [step, hp, splitValue, long]

theorem step_flag {f : Flag} {name : String} (h : name ∈ f.names) : p.step name = p.raise f := by
  rw [step, hp]
  cases f <;> simp only [Flag.names, List.mem_cons, List.not_mem_nil, or_false] at h
  case svg | summary =>
    subst h
    rfl
  case verbose =>
    rcases h with rfl | rfl
    · rfl
    · -- after its letter nothing is left of the word
      change (p.raise .verbose >>= fun q => q.short []) = p.raise .verbose
      cases p.raise .verbose <;> rfl

omit hp

/-- What has been read amounts to `g`, once the value that was read last is looked at. -/
structure Ready (p : Parse) (g : Given) : Prop where
  settle_eq : p.settle = .ok g
  inputSeen_eq : p.inputSeen = g.input.isSome
  trailing_eq : p.trailing = false

theorem Ready.word_eq {g : Given} (h : p.Ready g) (text : String) : p.word text = p.input text := by
  have hsettle := h.settle_eq
  unfold settle at hsettle
  unfold word
  split at hsettle <;> simp_all

variable {g : Given} {done : List Given.Part} (h : p.Ready (g.only done))

include h

theorem Ready.input {text : String} (htext : text ≠ "") (hholds : g.Holds .input text)
    (hnew : .argument .input ∉ done) :
    ∃ q, p.input text = .ok q ∧ q.Ready (g.only (done ++ [.argument .input])) := by
  have hseen : p.inputSeen = false := by
    rw [h.inputSeen_eq]
    simp [Given.only, hnew]
  have hgiven : g.input = some text := hholds
  refine ⟨{ p.settled (g.only done) with pending := some ⟨.input, some text⟩, inputSeen := true },
    ?_, ?_, ?_, h.trailing_eq⟩
  · simp only [Parse.input, hseen, h.settle_eq]
    rfl
  · exact Given.take_only hholds htext hnew
  · simp [Given.only, hgiven]

theorem Ready.option_value {a : Argument} {text : String} (ha : a ≠ .input) (htext : text ≠ "")
    (hholds : g.Holds a text) (hnew : .argument a ∉ done) :
    ∃ q, p.option a (some text) = .ok q ∧ q.Ready (g.only (done ++ [.argument a])) := by
  refine ⟨p.settled (g.only (done ++ [.argument a])), ?_, rfl, ?_, h.trailing_eq⟩
  · simp only [Parse.option, h.settle_eq, Given.take_only hholds htext hnew, Bind.bind, Except.bind]
    rfl
  · rw [Parse.settled, h.inputSeen_eq]
    simp [Given.only, ha.symm]

theorem Ready.option_word {a : Argument} {text : String} (ha : a ≠ .input) (htext : text ≠ "")
    (hholds : g.Holds a text) (hnew : .argument a ∉ done) :
    ∃ q r, p.option a none = .ok q ∧ q.trailing = false ∧ q.word text = .ok r ∧
      r.Ready (g.only (done ++ [.argument a])) := by
  refine ⟨{ p.settled (g.only done) with pending := some ⟨a, none⟩ },
    { p.settled (g.only done) with pending := some ⟨a, some text⟩ }, ?_, h.trailing_eq, rfl, ?_, ?_,
    h.trailing_eq⟩
  · simp only [Parse.option, h.settle_eq]
    rfl
  · exact Given.take_only hholds htext hnew
  · rw [Parse.settled, h.inputSeen_eq]
    simp [Given.only, ha.symm]

theorem Ready.raise {f : Flag} (hraises : g.Raises f) (hnew : .flag f ∉ done) :
    ∃ q, p.raise f = .ok q ∧ q.Ready (g.only (done ++ [.flag f])) := by
  refine ⟨p.settled (g.only (done ++ [.flag f])), ?_, rfl, ?_, h.trailing_eq⟩
  · simp only [Parse.raise, h.settle_eq, Given.raise_only hraises hnew, Bind.bind, Except.bind]
    rfl
  · rw [Parse.settled, h.inputSeen_eq]
    simp [Given.only]

theorem Ready.places {part : Given.Part} {words : List String} (hplaces : g.Places part words)
    (hnew : part ∉ done) :
    ∃ q, words.foldlM step p = .ok q ∧ q.Ready (g.only (done ++ [part])) := by
  have hp := h.trailing_eq
  cases hplaces with
  | @input text hvalue hholds =>
    obtain ⟨q, hq, hready⟩ := h.input hvalue.ne_empty hholds hnew
    refine ⟨q, ?_, hready⟩
    rw [List.foldlM_cons, step_value hp hvalue, h.word_eq, hq]
    rfl
  | @apart a name text hname hvalue hholds =>
    have ha : a ≠ .input := by
      rintro rfl
      exact nomatch hname
    obtain ⟨q, r, hq, htrailing, hr, hready⟩ := h.option_word ha hvalue.ne_empty hholds hnew
    refine ⟨r, ?_, hready⟩
    rw [List.foldlM_cons, step_name hp hname, hq]
    change [text].foldlM step q = _
    rw [List.foldlM_cons, step_value htrailing hvalue, hr]
    rfl
  | @joined a name text hname htext hholds =>
    have ha : a ≠ .input := by
      rintro rfl
      exact nomatch hname
    obtain ⟨q, hq, hready⟩ := h.option_value ha htext hholds hnew
    refine ⟨q, ?_, hready⟩
    rw [List.foldlM_cons, step_joined hp hname, hq]
    rfl
  | flag hname hraises =>
    obtain ⟨q, hq, hready⟩ := h.raise hraises hnew
    refine ⟨q, ?_, hready⟩
    rw [List.foldlM_cons, step_flag hp hname, hq]
    rfl

omit h

theorem Ready.foldlM_places (h : p.Ready (g.only done)) {parts : List Given.Part}
    {phrases : List (List String)} (hphrases : List.Forall₂ g.Places parts phrases)
    (hnodup : (done ++ parts).Nodup) :
    ∃ q, phrases.flatten.foldlM step p = .ok q ∧ q.Ready (g.only (done ++ parts)) := by
  -- along the parts: those before have given `done`, and no part is given twice
  induction hphrases generalizing p done with
  | nil => exact ⟨p, rfl, by rwa [List.append_nil]⟩
  | @cons part words parts phrases hplaces _ ih =>
    have hnew : part ∉ done := by
      intro hmem
      exact (List.nodup_append.mp hnodup).2.2 part hmem part List.mem_cons_self rfl
    obtain ⟨q, hq, hready⟩ := h.places hplaces hnew
    rw [List.append_cons] at hnodup ⊢
    obtain ⟨r, hr, hend⟩ := ih hready hnodup
    refine ⟨r, ?_, hend⟩
    rw [List.flatten_cons, List.foldlM_append, hq]
    exact hr

end Parse

namespace Given

theorem parts_nodup (g : Given) : g.parts.Nodup := List.Nodup.filter _ (by decide)

theorem only_eq_self (g : Given) (done : List Part) (h : g.parts ⊆ done) : g.only done = g := by
  have hmissing (part : Part) (hall : part ∈ allParts) (hout : part ∉ done) : g.has part = false := by
    cases hpart : g.has part with
    | true => exact absurd (h (List.mem_filter.mpr ⟨hall, hpart⟩)) hout
    | false => rfl
  have hvalue {α : Type} (a : Argument) (value : Option α) (hall : .argument a ∈ allParts)
      (hhas : g.has (.argument a) = value.isSome) :
      (if .argument a ∈ done then value else none) = value := by
    split_ifs with hin
    · rfl
    · have hnone := hhas.symm.trans (hmissing _ hall hin)
      rw [Option.isSome_eq_false_iff, Option.isNone_iff_eq_none] at hnone
      exact hnone.symm
  have hraised (f : Flag) (hall : .flag f ∈ allParts) :
      (decide (.flag f ∈ done) && g.has (.flag f)) = g.has (.flag f) := by
    by_cases hin : .flag f ∈ done
    · rw [decide_eq_true hin, Bool.true_and]
    · rw [hmissing _ hall hin, Bool.and_false]
  rw [only, hvalue .input _ (by decide) rfl, hvalue .outputDir _ (by decide) rfl,
    hvalue .trialCount _ (by decide) rfl, hvalue .baseline _ (by decide) rfl]
  exact congr (congr (congr rfl (hraised .svg (by decide))) (hraised .summary (by decide)))
    (hraised .verbose (by decide))

end Given

namespace CommandLine

theorem withEnvironment_directory (g : Given) (env : Environment) (text : String)
    (hgiven : g.outputDir = none) (htext : env.outputDir = some text) (hne : text ≠ "") :
    withEnvironment g env = withEnvironment { g with outputDir := some text } env := by
  simp only [withEnvironment, hgiven, htext, Given.readPath_of_ne text hne]
  rfl

theorem withEnvironment_trials (g : Given) (env : Environment) (count : Option UInt64)
    (hdir : g.outputDir = none → env.outputDir = none)
    (hcount : g.trialCount = none → Option.Rel Given.SpellsCount env.trialCount count) :
    withEnvironment g env = .ok { g with trialCount := g.trialCount.or count } := by
  obtain ⟨input, outputDir, trialCount, baseline, svg, summary, verbose⟩ := g
  obtain ⟨envDir, envCount⟩ := env
  have hsettled : (∃ d, outputDir = some d) ∨ outputDir = none ∧ envDir = none := by
    cases outputDir with
    | none => exact .inr ⟨rfl, hdir rfl⟩
    | some d => exact .inl ⟨d, rfl⟩
  cases trialCount with
  | some n => rcases hsettled with ⟨d, rfl⟩ | ⟨rfl, rfl⟩ <;> rfl
  | none =>
    cases hcount rfl with
    | none => rcases hsettled with ⟨d, rfl⟩ | ⟨rfl, rfl⟩ <;> rfl
    | @some text n hspells =>
      have hread := (Given.readTrialCount_eq_ok_iff text n).mpr hspells
      rcases hsettled with ⟨d, rfl⟩ | ⟨rfl, rfl⟩ <;> simp only [withEnvironment, hread] <;> rfl

theorem withEnvironment_eq_ok (g : Given) (env : Environment) (count : Option UInt64)
    (hdir : g.outputDir = none → env.outputDir ≠ some "")
    (hcount : g.trialCount = none → Option.Rel Given.SpellsCount env.trialCount count) :
    withEnvironment g env = .ok
      { g with outputDir := g.outputDir.or env.outputDir, trialCount := g.trialCount.or count } := by
  cases hgiven : g.outputDir with
  | some d =>
    rw [withEnvironment_trials g env count (by simp [hgiven]) hcount, hgiven]
    rfl
  | none =>
    cases htext : env.outputDir with
    | none =>
      rw [withEnvironment_trials g env count (fun _ => htext) hcount, hgiven]
      rfl
    | some text =>
      have hne : text ≠ "" := by
        rintro rfl
        exact hdir hgiven htext
      rw [withEnvironment_directory g env text hgiven htext hne]
      exact withEnvironment_trials { g with outputDir := some text } env count (by simp) hcount

/-- The parts of a command line may stand in any order and in any of their spellings. Each says what
it says there; for what none of them says, a variable of the environment does, and then a default. -/
theorem parse_in_any_order (g : Given) (parts : List Given.Part) (phrases : List (List String))
    (env : Environment) (count : Option UInt64) (horder : parts.Perm g.parts)
    (hphrases : List.Forall₂ g.Places parts phrases)
    (hdir : g.outputDir = none → env.outputDir ≠ some "")
    (hcount : g.trialCount = none → Option.Rel Given.SpellsCount env.trialCount count) :
    parse phrases.flatten env = .ok
      { settings :=
          { input := g.input.getD "btree_benchmark.csv"
            outputDir := (g.outputDir.or env.outputDir).getD "."
            trialCount := g.trialCount.or count
            baseline := g.baseline.getD "SimpleBTree"
            vectorOutput := g.svg
            summary := g.summary }
        verbose := g.verbose } := by
  have hstart : Parse.Ready {} (g.only []) := ⟨rfl, rfl, rfl⟩
  obtain ⟨p, hp, hready⟩ := hstart.foldlM_places hphrases (horder.nodup_iff.mpr g.parts_nodup)
  have hsettle := hready.settle_eq
  rw [List.nil_append, g.only_eq_self parts horder.symm.subset] at hsettle
  simp only [parse, hp, hsettle, withEnvironment_eq_ok g env count hdir hcount, Bind.bind,
    Except.bind]
  rfl

theorem mixed_parts_read :
    let g : Given := { input := some "in.csv", outputDir := some "a=b", svg := true, verbose := true }
    let parts : List Given.Part :=
      [.flag .verbose, .argument .outputDir, .argument .input, .flag .svg]
    parts.Perm g.parts ∧
      List.Forall₂ g.Places parts [["-v"], ["--output-dir=a=b"], ["in.csv"], ["--svg"]] ∧
      Option.Rel Given.SpellsCount (some "+7") (some 7) ∧
      parse ["-v", "--output-dir=a=b", "in.csv", "--svg"] ⟨some "env", some "+7"⟩ =
        .ok ⟨⟨"in.csv", "a=b", some 7, "SimpleBTree", true, false⟩, true⟩ := by
  intro g parts
  have horder : parts.Perm g.parts := by decide
  have hinput : Given.IsValue "in.csv" := ⟨'i', _, rfl, by decide⟩
  have houtputDir : g.Places (.argument .outputDir) ["--output-dir=a=b"] :=
    @Given.Places.joined g .outputDir "--output-dir" "a=b" (by decide) (by decide) rfl
  have hphrases : List.Forall₂ g.Places parts
      [["-v"], ["--output-dir=a=b"], ["in.csv"], ["--svg"]] :=
    .cons (.flag (by decide) rfl) <| .cons houtputDir <| .cons (.input hinput rfl) <|
      .cons (.flag (by decide) rfl) .nil
  have hcount : Option.Rel Given.SpellsCount (some "+7") (some 7) :=
    .some ⟨['7'], .inr rfl, by decide, List.forall_mem_singleton.mpr rfl, rfl⟩
  exact ⟨horder, hphrases, hcount,
    parse_in_any_order g parts _ ⟨some "env", some "+7"⟩ (some 7) horder hphrases (by decide)
      fun _ => hcount⟩

end CommandLine

end BenchReport

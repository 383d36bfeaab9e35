import BenchReport.Settings.Reading
import BenchReport.Proofs.Json.Grammar
import Mathlib.Data.List.Forall2
import Mathlib.Data.List.Perm.Basic

namespace BenchReport.Settings

open Json (Blanks Spells Derives EndsNumber skipBlanks)

inductive Field where
  | input
  | outputDir
  | trialCount
  | baseline
  | vectorOutput
  | summary
deriving DecidableEq

namespace Field

def name : Field → String
  | input => "input"
  | outputDir => "output_dir"
  | trialCount => "trial_count"
  | baseline => "baseline"
  | vectorOutput => "vector_output"
  | summary => "summary"

end Field

inductive IsMember (name : String) (value : List Char) : List Char → Prop
  | mk {bs key cs ds es : List Char} : Blanks bs → Spells key name.toList → Blanks cs → Blanks ds →
    Blanks es →
    IsMember name value (bs ++ '"' :: (key ++ '"' :: (cs ++ ':' :: (ds ++ (value ++ es)))))

def IsForeign (m : List Char) : Prop :=
  ∃ name value, (∀ f : Field, name ≠ f.name) ∧ Derives .value value ∧ IsMember name value m

def objectText (members : List (List Char)) : String :=
  String.ofList ('\x7b' :: ([','].intercalate members ++ ['\x7d']))

section Written

variable (s : Settings)

def fieldJson : Field → Json
  | .input => .text s.input
  | .outputDir => .text s.outputDir
  | .trialCount => s.trialCount.elim .null fun n => .natural n.toNat
  | .baseline => .text s.baseline
  | .vectorOutput => .bool s.vectorOutput
  | .summary => .bool s.summary

def fields : List Field :=
  [.input, .outputDir] ++ (s.trialCount.toList.map fun _ => .trialCount) ++
    [.baseline, .vectorOutput, .summary]

def memberText (f : Field) : List Char := Json.writeText f.name ++ ':' :: (s.fieldJson f).compact

/-- The members of `s` in any order, the trial count as `null` if it is not set, and members that
are none of `s`. -/
def Rearranged (members : List (List Char)) : Prop :=
  ∃ nulls others, (nulls = [] ∨ s.trialCount = none ∧ ∃ m, nulls = [m] ∧
      IsMember Field.trialCount.name "null".toList m) ∧
    (∀ m ∈ others, IsForeign m) ∧ members.Perm (s.fields.map s.memberText ++ (nulls ++ others))

theorem toJson_eq : s.toJson = .object (s.fields.map fun f => (f.name, s.fieldJson f)) := by
  cases htrials : s.trialCount <;> simp [toJson, fields, fieldJson, Field.name, htrials]

theorem compactMembers_eq (members : List (String × Json)) :
    Json.compactMembers members =
      [','].intercalate (members.map fun m => Json.writeText m.1 ++ ':' :: m.2.compact) := by
  induction members with
  | nil => rfl
  | cons m ms ih =>
    cases ms with
    | nil => simp [Json.compactMembers]
    | cons m' ms =>
      rw [Json.compactMembers, ih]
      · simp [List.intercalate_cons_cons]
      · simp

theorem serialize_eq : s.serialize = objectText (s.fields.map s.memberText) := by
  rw [serialize, toJson_eq, Json.compact, compactMembers_eq, List.map_map]
  rfl

theorem isMember_memberText (f : Field) :
    IsMember f.name (s.fieldJson f).compact (s.memberText f) := by
  have hnone : Blanks [] := by simp [Blanks]
  have hspells := Json.spells_flatMap_escape f.name.toList
  simpa [memberText, Json.writeText] using
    @IsMember.mk f.name (s.fieldJson f).compact [] _ [] [] [] hnone hspells hnone hnone hnone

end Written

section Values

variable (bs rest : List Char) (hbs : Blanks bs)

include hbs

theorem readString_text (s : String) :
    readString (bs ++ ((Json.text s).compact ++ rest)) = .ok (s, rest) := by
  have hquote : skipBlanks (bs ++ ((Json.text s).compact ++ rest)) =
      '"' :: (s.toList.flatMap Json.escape ++ '"' :: rest) := by
    rw [Json.skipBlanks_append bs _ hbs, Json.compact, Json.writeText, List.cons_append,
      List.append_assoc]
    rfl
  simp only [readString, hquote, Json.readText_flatMap_escape]

theorem readBool_bool (b : Bool) :
    readBool (bs ++ ((Json.bool b).compact ++ rest)) = .ok (b, rest) := by
  unfold readBool
  rw [Json.skipBlanks_append bs _ hbs]
  cases b <;> rfl

theorem readTrialCount_elim (n : Option UInt64) (hrest : EndsNumber rest) :
    readTrialCount (bs ++ ((n.elim Json.null fun n => .natural n.toNat).compact ++ rest)) =
      .ok (n, rest) := by
  unfold readTrialCount
  rw [Json.skipBlanks_append bs _ hbs]
  cases n with
  | none => rfl
  | some n =>
    obtain ⟨c, cs, hcs, hc⟩ := toDigits_cons n.toNat
    have hread := Json.readNumber_toDigits n.toNat n.toNat_lt rest hrest
    have hword : c ≠ 'n' := by
      rintro rfl
      exact absurd hc (by decide)
    rw [Option.elim_some, Json.compact, hcs, List.cons_append,
      Json.skipBlanks_cons c _ (Json.isBlank_of_isDigit c hc)]
    rw [hcs, List.cons_append] at hread
    split
    · rename_i heq
      exact absurd (List.cons.inj heq).1 hword
    · rename_i heq
      cases heq
    · rename_i heq
      obtain ⟨rfl, rfl⟩ := List.cons.inj heq
      simp [hc, hread, Bind.bind, Except.bind, n.toNat_lt]

end Values

def draft (s : Settings) (done : List Field) : Draft where
  input := if .input ∈ done then some s.input else none
  outputDir := if .outputDir ∈ done then some s.outputDir else none
  trialCount := if .trialCount ∈ done then some s.trialCount else none
  baseline := if .baseline ∈ done then some s.baseline else none
  vectorOutput := if .vectorOutput ∈ done then some s.vectorOutput else none
  summary := if .summary ∈ done then some s.summary else none

def Gives (s : Settings) : Option Field → List Char → Prop
  | some f, m => IsMember f.name (s.fieldJson f).compact m
  | none, m => IsForeign m

section Members

variable {s : Settings}

theorem readMember_field (f : Field) (done : List Field) (bs bs' rest : List Char)
    (hf : f ∉ done) (hbs : Blanks bs) (hbs' : Blanks bs') (hrest : EndsNumber rest) :
    readMember (s.draft done) f.name (bs ++ ':' :: (bs' ++ ((s.fieldJson f).compact ++ rest))) =
      .ok (s.draft (done ++ [f]), rest) := by
  have honce {α : Type} (read : Json.Reader α) (a : α)
      (h : read (bs' ++ ((s.fieldJson f).compact ++ rest)) = .ok (a, rest)) :
      once none read (bs ++ ':' :: (bs' ++ ((s.fieldJson f).compact ++ rest))) = .ok (a, rest) := by
    simp only [once, Json.skipColon_append bs _ hbs, Bind.bind, Except.bind, h]
  cases f with
  | input =>
    have hread := honce readString s.input (readString_text bs' rest hbs' s.input)
    simp [readMember, Field.name, draft, hf, hread, Except.map]
  | outputDir =>
    have hread := honce readString s.outputDir (readString_text bs' rest hbs' s.outputDir)
    simp [readMember, Field.name, draft, hf, hread, Except.map]
  | trialCount =>
    have hread := honce readTrialCount s.trialCount
      (readTrialCount_elim bs' rest hbs' s.trialCount hrest)
    simp [readMember, Field.name, draft, hf, hread, Except.map]
  | baseline =>
    have hread := honce readString s.baseline (readString_text bs' rest hbs' s.baseline)
    simp [readMember, Field.name, draft, hf, hread, Except.map]
  | vectorOutput =>
    have hread := honce readBool s.vectorOutput (readBool_bool bs' rest hbs' s.vectorOutput)
    simp [readMember, Field.name, draft, hf, hread, Except.map]
  | summary =>
    have hread := honce readBool s.summary (readBool_bool bs' rest hbs' s.summary)
    simp [readMember, Field.name, draft, hf, hread, Except.map]

theorem readMember_foreign (name : String) (hname : ∀ f : Field, name ≠ f.name) (d : Draft)
    (bs bs' cs rest : List Char) (hbs : Blanks bs) (hbs' : Blanks bs') (hcs : Derives .value cs)
    (hrest : EndsNumber rest) :
    readMember d name (bs ++ ':' :: (bs' ++ (cs ++ rest))) = .ok (d, rest) := by
  have hinput := hname .input
  have houtputDir := hname .outputDir
  have htrialCount := hname .trialCount
  have hbaseline := hname .baseline
  have hvectorOutput := hname .vectorOutput
  have hsummary := hname .summary
  simp only [Field.name] at hinput houtputDir htrialCount hbaseline hvectorOutput hsummary
  simp only [readMember, hinput, houtputDir, htrialCount, hbaseline, hvectorOutput, hsummary,
    if_false, Json.skipColon_append bs _ hbs, Json.skipValue_append bs' cs rest hbs' hcs hrest,
    Bind.bind, Except.bind]

theorem IsMember.exists_readText {name : String} {value m : List Char} (h : IsMember name value m)
    (rest : List Char) :
    ∃ cs bs bs' bs'', skipBlanks (m ++ rest) = '"' :: cs ∧ Blanks bs ∧ Blanks bs' ∧ Blanks bs'' ∧
      Json.readText cs = .ok (name, bs ++ ':' :: (bs' ++ (value ++ (bs'' ++ rest)))) := by
  obtain @⟨bs, key, cs, ds, es, hbs, hkey, hcs, hds, hes⟩ := h
  refine ⟨_, cs, ds, es, ?_, hcs, hds, hes, Json.readText_append key name _ hkey⟩
  rw [List.append_assoc, Json.skipBlanks_append bs _ hbs, List.cons_append,
    Json.skipBlanks_cons '"' _ (by decide)]
  simp only [List.append_assoc, List.cons_append]

theorem Gives.exists_readMember {label : Option Field} {m : List Char} (h : s.Gives label m)
    (done : List Field) (hnew : ∀ f ∈ label, f ∉ done) (rest : List Char)
    (hrest : EndsNumber rest) :
    ∃ cs name ds bs, skipBlanks (m ++ rest) = '"' :: cs ∧ Json.readText cs = .ok (name, ds) ∧
      Blanks bs ∧
        readMember (s.draft done) name ds = .ok (s.draft (done ++ label.toList), bs ++ rest) := by
  cases label with
  | some f =>
    obtain ⟨cs, bs, bs', bs'', hcs, hbs, hbs', hbs'', htext⟩ := IsMember.exists_readText h rest
    have hend := Json.endsNumber_append bs'' rest hbs'' hrest
    exact ⟨cs, _, _, bs'', hcs, htext, hbs'',
      readMember_field f done bs bs' _ (hnew f rfl) hbs hbs' hend⟩
  | none =>
    obtain ⟨name, value, hname, hvalue, hm⟩ := h
    obtain ⟨cs, bs, bs', bs'', hcs, hbs, hbs', hbs'', htext⟩ := hm.exists_readText rest
    have hend := Json.endsNumber_append bs'' rest hbs'' hrest
    rw [Option.toList_none, List.append_nil]
    exact ⟨cs, _, _, bs'', hcs, htext, hbs'',
      readMember_foreign name hname _ bs bs' value _ hbs hbs' hvalue hend⟩

theorem readMembers_last {label : Option Field} {m : List Char} (h : s.Gives label m)
    (done : List Field) (hnew : ∀ f ∈ label, f ∉ done) (n : Nat) (rest : List Char) :
    readMembers (n + 1) (s.draft done) (m ++ '\x7d' :: rest) =
      .ok (s.draft (done ++ label.toList), rest) := by
  obtain ⟨cs, name, ds, bs, hcs, htext, hbs, hmember⟩ :=
    h.exists_readMember done hnew ('\x7d' :: rest) (by rintro c ⟨⟩; decide)
  have hend : skipBlanks (bs ++ '\x7d' :: rest) = '\x7d' :: rest := Json.skipBlanks_append bs _ hbs
  simp only [readMembers, hcs, htext, hmember, hend, Bind.bind, Except.bind]

theorem readMembers_more {label : Option Field} {m : List Char} (h : s.Gives label m)
    (done : List Field) (hnew : ∀ f ∈ label, f ∉ done) (n : Nat) (rest : List Char) :
    readMembers (n + 1) (s.draft done) (m ++ ',' :: rest) =
      readMembers n (s.draft (done ++ label.toList)) rest := by
  obtain ⟨cs, name, ds, bs, hcs, htext, hbs, hmember⟩ :=
    h.exists_readMember done hnew (',' :: rest) (Json.endsNumber_comma rest)
  have hnext : skipBlanks (bs ++ ',' :: rest) = ',' :: rest := Json.skipBlanks_append bs _ hbs
  simp only [readMembers, hcs, htext, hmember, hnext, Bind.bind, Except.bind]

def given (labels : List (Option Field)) : List Field := labels.flatMap Option.toList

theorem not_mem_of_nodup_given (label : Option Field) (labels : List (Option Field))
    (done : List Field) (h : (done ++ given (label :: labels)).Nodup) : ∀ f ∈ label, f ∉ done := by
  intro f hf hmem
  have hgiven : f ∈ given (label :: labels) := by simp [given, Option.mem_def.mp hf]
  exact (List.nodup_append.mp h).2.2 f hmem f hgiven rfl

theorem readMembers_gives {label : Option Field} {m : List Char} {labels : List (Option Field)}
    {ms : List (List Char)} (h : s.Gives label m) (hs : List.Forall₂ s.Gives labels ms)
    (done : List Field) (hnew : (done ++ given (label :: labels)).Nodup) (n : Nat)
    (hn : ms.length < n) (rest : List Char) :
    readMembers n (s.draft done) ([','].intercalate (m :: ms) ++ '\x7d' :: rest) =
      .ok (s.draft (done ++ given (label :: labels)), rest) := by
  have hpos {k n : Nat} (h : k < n) : ∃ m, n = m + 1 := ⟨n - 1, by omega⟩
  -- along the members: those before have given `done`, and no field is given twice
  induction hs generalizing label m done n with
  | nil =>
    obtain ⟨n, rfl⟩ := hpos hn
    have hdone := not_mem_of_nodup_given label [] done hnew
    simpa [given] using readMembers_last h done hdone n rest
  | @cons label' m' labels ms h' hs ih =>
    obtain ⟨n, rfl⟩ := hpos hn
    have hdone := not_mem_of_nodup_given label (label' :: labels) done hnew
    have hgiven : done ++ given (label :: label' :: labels) =
        (done ++ label.toList) ++ given (label' :: labels) := by
      simp [given]
    rw [hgiven] at hnew ⊢
    rw [List.intercalate_cons_cons, List.append_assoc, List.append_assoc, List.singleton_append,
      readMembers_more h done hdone]
    rw [List.length_cons] at hn
    exact ih h' _ hnew n (by omega)

theorem Rearranged.exists_labels {members : List (List Char)} (h : s.Rearranged members) :
    ∃ labels, List.Forall₂ s.Gives labels members ∧ (given labels).Nodup ∧
      s.fields ⊆ given labels := by
  obtain ⟨nulls, others, hnulls, hothers, hperm⟩ := h
  have hown : List.Forall₂ s.Gives (s.fields.map some) (s.fields.map s.memberText) := by
    rw [List.forall₂_map_left_iff, List.forall₂_map_right_iff, List.forall₂_same]
    exact fun f _ => s.isMember_memberText f
  have hforeign : List.Forall₂ s.Gives (others.map fun _ => none) others := by
    rw [List.forall₂_map_left_iff, List.forall₂_same]
    exact hothers
  obtain ⟨nullLabels, hnull, hnodup⟩ : ∃ labels, List.Forall₂ s.Gives labels nulls ∧
      (s.fields ++ given labels).Nodup := by
    rcases hnulls with rfl | ⟨htrials, m, rfl, hm⟩
    · refine ⟨[], .nil, ?_⟩
      cases htrials : s.trialCount <;> simp [fields, given, htrials]
    · have hgives : s.Gives (some .trialCount) m := by
        rw [Gives, fieldJson, htrials]
        exact hm
      refine ⟨[some .trialCount], .cons hgives .nil, ?_⟩
      simp [fields, given, htrials]
  have hall := List.rel_append hown (List.rel_append hnull hforeign)
  obtain ⟨labels, hlabels, hgives⟩ : Relation.Comp List.Perm (List.Forall₂ s.Gives) _ members := by
    rw [← List.forall₂_comp_perm_eq_perm_comp_forall₂]
    exact ⟨_, hall, hperm.symm⟩
  have hgiven : (s.fields ++ given nullLabels).Perm (given labels) := by
    have hflat := hlabels.flatMap_right Option.toList
    have hnone : (others.map fun _ => none).flatMap (Option.toList (α := Field)) = [] := by
      simp [List.flatMap_eq_nil_iff]
    rw [List.flatMap_append, List.flatMap_append, hnone] at hflat
    simpa [given, List.flatMap_map] using hflat
  exact ⟨labels, hgives, hgiven.nodup hnodup,
    fun f hf => hgiven.subset (List.mem_append_left _ hf)⟩

theorem finish_draft {done : List Field} (h : s.fields ⊆ done) : (s.draft done).finish = .ok s := by
  have hinput : Field.input ∈ done := h (by simp [fields])
  have houtputDir : Field.outputDir ∈ done := h (by simp [fields])
  have hbaseline : Field.baseline ∈ done := h (by simp [fields])
  have hvectorOutput : Field.vectorOutput ∈ done := h (by simp [fields])
  have hsummary : Field.summary ∈ done := h (by simp [fields])
  have htrials : (if .trialCount ∈ done then some s.trialCount else none).join = s.trialCount := by
    split_ifs with hdone
    · rfl
    · cases htrials : s.trialCount with
      | none => rfl
      | some n => exact absurd (h (by simp [fields, htrials])) hdone
  simp only [Draft.finish, draft, hinput, houtputDir, hbaseline, hvectorOutput, hsummary, if_true,
    htrials]

theorem IsMember.exists_blanks {name : String} {value m : List Char} (h : IsMember name value m) :
    ∃ bs cs, Blanks bs ∧ m = bs ++ '"' :: cs ∧ IsMember name value ('"' :: cs) := by
  obtain @⟨bs, key, cs, ds, es, hbs, hkey, hcs, hds, hes⟩ := h
  have hnone : Blanks [] := by simp [Blanks]
  exact ⟨bs, _, hbs, rfl, .mk hnone hkey hcs hds hes⟩

theorem Gives.exists_blanks {label : Option Field} {m : List Char} (h : s.Gives label m) :
    ∃ bs cs, Blanks bs ∧ m = bs ++ '"' :: cs ∧ s.Gives label ('"' :: cs) := by
  cases label with
  | some f => exact IsMember.exists_blanks h
  | none =>
    obtain ⟨name, value, hname, hvalue, hm⟩ := h
    obtain ⟨bs, cs, hbs, heq, hm'⟩ := hm.exists_blanks
    exact ⟨bs, cs, hbs, heq, name, value, hname, hvalue, hm'⟩

theorem length_le_intercalate (ms : List (List Char)) :
    ms.length ≤ ([','].intercalate ms).length + 1 := by
  induction ms with
  | nil => simp
  | cons m ms ih =>
    cases ms with
    | nil => simp
    | cons m' ms =>
      rw [List.intercalate_cons_cons, List.length_cons, List.length_append, List.length_append,
        List.length_singleton]
      omega

theorem draft_nil (s : Settings) : s.draft [] = {} := by simp [draft]

theorem readObject_gives {labels : List (Option Field)} {members : List (List Char)}
    (h : List.Forall₂ s.Gives labels members) (hnodup : (given labels).Nodup)
    (hfields : s.fields ⊆ given labels) (rest : List Char) :
    readObject ([','].intercalate members ++ '\x7d' :: rest) = .ok (s, rest) := by
  cases h with
  | nil => exact absurd (hfields (List.mem_cons_self : Field.input ∈ s.fields)) (by simp [given])
  | @cons label m labels ms hm hms =>
    obtain ⟨bs, cs, hbs, rfl, hm'⟩ := hm.exists_blanks
    have hblanks : [','].intercalate ((bs ++ '"' :: cs) :: ms) =
        bs ++ [','].intercalate (('"' :: cs) :: ms) := by
      cases ms <;> simp [List.intercalate_cons_cons]
    obtain ⟨ds, hds⟩ :
        ∃ ds, [','].intercalate (('"' :: cs) :: ms) ++ '\x7d' :: rest = '"' :: ds := by
      cases ms <;> simp [List.intercalate_cons_cons]
    have hskip : skipBlanks ([','].intercalate ((bs ++ '"' :: cs) :: ms) ++ '\x7d' :: rest) =
        '"' :: ds := by
      rw [hblanks, List.append_assoc, Json.skipBlanks_append bs _ hbs, hds]
      rfl
    have hlength : ms.length < ('"' :: ds).length + 1 := by
      have hcount := length_le_intercalate (('"' :: cs) :: ms)
      rw [← hds, List.length_append]
      rw [List.length_cons] at hcount
      omega
    have hread := readMembers_gives hm' hms [] hnodup _ hlength rest
    rw [hds, List.nil_append, s.draft_nil] at hread
    have hquote : readObject ([','].intercalate ((bs ++ '"' :: cs) :: ms) ++ '\x7d' :: rest) =
        (readMembers (('"' :: ds).length + 1) {} ('"' :: ds)).bind fun r =>
          r.1.finish.bind fun s => .ok (s, r.2) := by
      unfold readObject
      rw [hskip]
      rfl
    rw [hquote, hread, Except.bind, finish_draft hfields]
    rfl

end Members

/-- Settings are read back from the text that is written for them, and from every rearrangement of
its members with further members among them. -/
theorem deserialize_rearranged (s : Settings) :
    s.serialize = objectText (s.fields.map s.memberText) ∧ deserialize s.serialize = .ok s ∧
      ∀ members, s.Rearranged members → deserialize (objectText members) = .ok s := by
  have hread (members : List (List Char)) (h : s.Rearranged members) :
      deserialize (objectText members) = .ok s := by
    obtain ⟨labels, hgives, hnodup, hfields⟩ := h.exists_labels
    have hobject := readObject_gives hgives hnodup hfields []
    have htext : (objectText members).toList =
        '\x7b' :: ([','].intercalate members ++ ['\x7d']) := by
      simp [objectText]
    have hopen (cs : List Char) : skipBlanks ('\x7b' :: cs) = '\x7b' :: cs := rfl
    simp only [deserialize, readSettings, htext, hopen, hobject, Bind.bind, Except.bind]
    rfl
  have hown : s.Rearranged (s.fields.map s.memberText) := ⟨[], [], .inl rfl, by simp, by simp⟩
  refine ⟨s.serialize_eq, ?_, hread⟩
  rw [s.serialize_eq]
  exact hread _ hown

theorem deserialize_reversed :
    let s : Settings := { input := "a\\\"\n", baseline := "é" }
    let foreign := "\"\\u0078\":[-0.5e+3,\x7b\"input\":\"\\ud800\"\x7d]".toList
    let members := foreign :: "\"trial_count\": null".toList :: (s.fields.map s.memberText).reverse
    s.Rearranged members ∧ deserialize (objectText members) = .ok s := by
  intro s foreign members
  have hnone : Blanks [] := by simp [Blanks]
  have hblank : Blanks [' '] := by simp [Blanks, Json.isBlank]
  have hdigits : ∀ c ∈ ['0', '3', '5'], Json.IsDigits [c] := by simp [Json.IsDigits]
  have hnumber : Derives .value "-0.5e+3".toList :=
    .negative (@Json.IsUnsigned.mk ['0'] ['.', '5'] ['e', '+', '3'] (hdigits '0' (by simp))
      (by simp) (.inr ⟨['5'], hdigits '5' (by simp), rfl⟩)
      (.inr ⟨'e', by simp, ['+'], by simp, ['3'], hdigits '3' (by simp), rfl⟩))
  have hhex : ∀ c ∈ ['d', '8', '0', '0'], Json.IsHexDigit c := by
    have hletter : Json.IsHexDigit 'd' := .inr (.inl ⟨by decide, by decide⟩)
    have hdigit : ∀ c ∈ ['8', '0'], Json.IsHexDigit c := fun c hc => .inl (by revert c; simp)
    simpa [hletter] using hdigit
  have hname : Json.IsText "input".toList := by
    repeat apply Json.IsText.plain (by decide) (by decide) (by decide)
    exact .nil
  have htext : Derives .element "\"\\ud800\"".toList :=
    .element hnone (.text (.code hhex .nil)) hnone
  have hobject : Derives .value "\x7b\"input\":\"\\ud800\"\x7d".toList :=
    .object (.lastMember (.member hnone hname hnone htext))
  have hvalue : Derives .value "[-0.5e+3,\x7b\"input\":\"\\ud800\"\x7d]".toList :=
    .list (.items (.element hnone hnumber hnone) (.lastItem (.element hnone hobject hnone)))
  have hcode : Json.IsCode ['0', '0', '7', '8'] (((0 * 16 + 0) * 16 + 7) * 16 + 8) :=
    .mk rfl rfl rfl rfl
  have hx : Spells "\\u0078".toList "x".toList := .code hcode (by decide) .nil
  have hforeign : IsForeign foreign :=
    ⟨"x", _, by rintro ⟨⟩ <;> decide, hvalue, .mk hnone hx hnone hnone hnone⟩
  have hnull : IsMember Field.trialCount.name "null".toList "\"trial_count\": null".toList :=
    .mk hnone (Json.spells_flatMap_escape "trial_count".toList) hnone hblank hnone
  have hmembers : s.Rearranged members := by
    refine ⟨["\"trial_count\": null".toList], [foreign], .inr ⟨rfl, _, rfl, hnull⟩, by simpa, ?_⟩
    have hreverse : members = (s.fields.map s.memberText ++
        ["\"trial_count\": null".toList, foreign]).reverse := by
      rw [List.reverse_append]
      rfl
    exact hreverse ▸ List.reverse_perm _
  exact ⟨hmembers, (deserialize_rearranged s).2.2 members hmembers⟩

end BenchReport.Settings

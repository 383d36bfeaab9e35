import BenchReport.Csv.Reader
import Mathlib.Data.List.Induction
import Mathlib.Tactic.IntervalCases
/-!
Where the records of a file start, byte by byte. A record starts at the first byte that is no line
break, but its position was taken behind the line break that ended the record above it: line breaks
that are skipped on the way to the record are not in its line.
-/

namespace BenchReport.Csv

def IsLineBreak (b : UInt8) : Prop := b = Scanner.lineFeed ∨ b = Scanner.carriageReturn

instance (b : UInt8) : Decidable (IsLineBreak b) := inferInstanceAs (Decidable (_ ∨ _))

structure Gap (bytes above : Bytes) (b : UInt8) (skipped : Bytes) : Prop where
  bytes_eq : bytes = above ++ b :: skipped
  last : ∃ c ∈ above.getLast?, ¬ IsLineBreak c
  breaks : ∀ c ∈ b :: skipped, IsLineBreak c

namespace Gap

variable {bytes above : Bytes} {b : UInt8} {skipped : Bytes}

theorem skip (h : Gap bytes above b skipped) (c : UInt8) (hc : IsLineBreak c) :
    Gap (bytes ++ [c]) above b (skipped ++ [c]) := by
  refine ⟨?_, h.last, ?_⟩
  · rw [h.bytes_eq, List.append_assoc, List.cons_append]
  · intro d hd
    rw [← List.cons_append] at hd
    rcases List.mem_append.mp hd with hd | hd
    · exact h.breaks d hd
    · rwa [List.mem_singleton.mp hd]

theorem append_left (h : Gap bytes above b skipped) (mark : Bytes) :
    Gap (mark ++ bytes) (mark ++ above) b skipped := by
  obtain ⟨hbytes, ⟨c, hc, hlast⟩, hbreaks⟩ := h
  refine ⟨by rw [hbytes, List.append_assoc], ⟨c, ?_, hlast⟩, hbreaks⟩
  rw [List.getLast?_append, hc, Option.some_or]
  rfl

end Gap

namespace Scanner

def starts (s : Scanner) : List Position := s.finish.map (·.start)

theorem starts_between (s : Scanner) (h : s.mode = .between) :
    s.starts = (s.records.map (·.start)).reverse := by
  rw [starts, finish, if_pos h, List.map_reverse]

theorem starts_inside (s : Scanner) (h : s.mode ≠ .between) :
    s.starts = (s.records.map (·.start)).reverse ++ [s.start] := by
  rw [starts, finish, if_neg h, List.map_reverse, endRecord, List.map_cons, List.reverse_cons]

inductive Reads (s : Scanner) (b : UInt8) (s' : Scanner) : Prop
  | skip : s.mode = .between → IsLineBreak b → s'.mode = .between → s'.starts = s.starts →
    s'.start = s.start → Reads s b s'
  | start : s.mode = .between → ¬ IsLineBreak b → s'.mode ≠ .between →
    s'.starts = s.starts ++ [s.start] → Reads s b s'
  | keep : s.mode ≠ .between → (IsLineBreak b → s'.mode = .quoted) → s'.mode ≠ .between →
    s'.starts = s.starts → Reads s b s'
  | stop : s.mode ≠ .between → s.mode ≠ .quoted → IsLineBreak b → s'.mode = .between →
    s'.starts = s.starts → s'.start = s'.position → Reads s b s'

theorem step_position (s : Scanner) (b : UInt8) : (s.step b).position = advance s.position b := by
  unfold step openingStep bareStep
  cases s.mode <;> dsimp only <;> split_ifs <;> rfl

theorem reads_within (s s' : Scanner) (b : UInt8) (hmode : s.mode ≠ .between)
    (hmode' : s'.mode ≠ .between) (hb : IsLineBreak b → s'.mode = .quoted)
    (hstart : s'.start = s.start) (hrecords : s'.records = s.records) : s.Reads b s' := by
  refine .keep hmode hb hmode' ?_
  rw [starts_inside s hmode, starts_inside s' hmode', hstart, hrecords]

theorem reads_start (s s' : Scanner) (b : UInt8) (hmode : s.mode = .between) (hb : ¬ IsLineBreak b)
    (hmode' : s'.mode ≠ .between) (hstart : s'.start = s.start) (hrecords : s'.records = s.records) :
    s.Reads b s' := by
  refine .start hmode hb hmode' ?_
  rw [starts_between s hmode, starts_inside s' hmode', hstart, hrecords]

theorem reads_endRecord (s : Scanner) (b : UInt8) (hmode : s.mode ≠ .between ∧ s.mode ≠ .quoted)
    (hb : IsLineBreak b) : s.Reads b { s with position := advance s.position b }.endRecord := by
  refine .stop hmode.1 hmode.2 hb rfl ?_ rfl
  rw [starts_inside s hmode.1, starts_between _ rfl]
  exact List.reverse_cons

theorem reads_step (s : Scanner) (b : UInt8) : s.Reads b (s.step b) := by
  by_cases hb : IsLineBreak b
  · have hquote : b ≠ quote := by rcases hb with rfl | rfl <;> decide
    have hcomma : b ≠ comma := by rcases hb with rfl | rfl <;> decide
    have hbreak : b = lineFeed ∨ b = carriageReturn := hb
    cases hm : s.mode with
    | between =>
      have hstep : s.step b = { s with position := advance s.position b } := by
        simp only [step, hm, if_pos hbreak]
      have hstarts : (s.step b).starts = s.starts := by
        rw [hstep, starts_between s hm]
        exact starts_between _ hm
      rw [hstep] at hstarts ⊢
      exact .skip hm hb hm hstarts rfl
    | quoted =>
      have hstep : s.step b = { s with position := advance s.position b }.keep .quoted b := by
        simp only [step, hm, if_neg hquote]
      rw [hstep]
      exact reads_within s _ b (by simp [hm]) (by simp [keep]) (fun _ => rfl) rfl rfl
    | opening | bare | closing =>
      have hstep : s.step b = { s with position := advance s.position b }.endRecord := by
        simp only [step, hm, openingStep, bareStep, if_neg hquote, if_neg hcomma, if_pos hbreak]
      rw [hstep]
      exact reads_endRecord s b (by simp [hm]) hb
  · have hinside : (s.step b).mode ≠ .between ∧ (s.step b).start = s.start ∧
        (s.step b).records = s.records := by
      have hbreak : ¬ (b = lineFeed ∨ b = carriageReturn) := hb
      unfold step openingStep bareStep
      cases s.mode <;> simp only [if_neg hbreak] <;> split_ifs <;> simp [keep, endField]
    obtain ⟨hmode, hstart, hrecords⟩ := hinside
    by_cases hm : s.mode = .between
    · exact reads_start s _ b hm hb hmode hstart hrecords
    · exact reads_within s _ b hm hmode (fun h => absurd h hb) hstart hrecords

theorem starts_step (s : Scanner) (b : UInt8) : s.starts <+: (s.step b).starts := by
  cases s.reads_step b with
  | start _ _ _ hstarts => exact ⟨[s.start], hstarts.symm⟩
  | skip _ _ _ hstarts _ | keep _ _ _ hstarts | stop _ _ _ _ hstarts _ =>
    exact ⟨[], by rw [List.append_nil, hstarts]⟩

def run (mark : Nat) (bs : Bytes) : Scanner := bs.foldl step (.initial ⟨1, mark⟩)

theorem run_append_singleton (mark : Nat) (bs : Bytes) (b : UInt8) :
    run mark (bs ++ [b]) = (run mark bs).step b := by
  rw [run, List.foldl_append]
  rfl

theorem starts_run_append (mark : Nat) (bs cs : Bytes) :
    (run mark bs).starts <+: (run mark (bs ++ cs)).starts := by
  induction cs using List.reverseRecOn with
  | nil => exact ⟨[], by rw [List.append_nil, List.append_nil]⟩
  | append_singleton cs c ih =>
    rw [← List.append_assoc, run_append_singleton]
    exact ih.trans (starts_step _ c)

def Passed (bs : Bytes) (line : Nat) : Prop :=
  ∃ above b skipped, Gap bs above b skipped ∧ line = 1 + (above ++ [b]).count lineFeed

def Started (mark : Nat) (bs : Bytes) (k line : Nat) : Prop :=
  ∃ p < bs.length, (run mark (bs.take p)).starts.length = k ∧
    (run mark (bs.take (p + 1))).starts.length = k + 1 ∧ (k ≠ 0 → Passed (bs.take p) line)

theorem Started.append {mark k line : Nat} {bs : Bytes} (h : Started mark bs k line) (cs : Bytes) :
    Started mark (bs ++ cs) k line := by
  obtain ⟨p, hp, hfirst, hnext, hpassed⟩ := h
  have hlength : p < (bs ++ cs).length := by
    rw [List.length_append]
    omega
  refine ⟨p, hlength, ?_⟩
  rw [List.take_append_of_le_length (by omega), List.take_append_of_le_length (by omega)]
  exact ⟨hfirst, hnext, hpassed⟩

structure Traced (mark : Nat) (bs : Bytes) (s : Scanner) : Prop where
  line : s.position.line = 1 + bs.count lineFeed
  passed : s.mode = .between → s.starts ≠ [] → Passed bs s.start.line
  unbroken : s.mode ≠ .between → s.mode ≠ .quoted → ∃ c ∈ bs.getLast?, ¬ IsLineBreak c
  started : ∀ k start, s.starts[k]? = some start → Started mark bs k start.line

theorem traced_step (mark : Nat) (bs : Bytes) (b : UInt8) (h : Traced mark bs (run mark bs)) :
    Traced mark (bs ++ [b]) (run mark (bs ++ [b])) := by
  have hrun := run_append_singleton mark bs b
  have hreads := (run mark bs).reads_step b
  have hline : (run mark (bs ++ [b])).position.line = 1 + (bs ++ [b]).count lineFeed := by
    rw [hrun, step_position, advance, h.line, List.count_append, ← Nat.add_assoc]
    by_cases hb : b = lineFeed <;> simp [hb]
  have hkept : ∀ k start, (run mark bs).starts[k]? = some start →
      Started mark (bs ++ [b]) k start.line := fun k start hk => (h.started k start hk).append [b]
  rw [← hrun] at hreads
  cases hreads with
  | skip hmode hb hmode' hstarts hstart =>
    refine ⟨hline, ?_, ?_, ?_⟩
    · intro _ hne
      rw [hstarts] at hne
      obtain ⟨above, c, skipped, hgap, hcount⟩ := h.passed hmode hne
      rw [hstart]
      exact ⟨above, c, skipped ++ [b], hgap.skip b hb, hcount⟩
    · intro hout
      exact absurd hmode' hout
    · rw [hstarts]
      exact hkept
  | start hmode hb hmode' hstarts =>
    refine ⟨hline, fun hin => absurd hin hmode', fun _ _ => ⟨b, by simp, hb⟩, ?_⟩
    intro k start hk
    rw [hstarts] at hk
    have hlast : (run mark bs).starts[k]? = some start ∨
        k = (run mark bs).starts.length ∧ start = (run mark bs).start := by grind
    rcases hlast with hk | ⟨rfl, rfl⟩
    · exact hkept k start hk
    · -- the byte `b` starts this record, whose line was taken in front of the skipped breaks
      refine ⟨bs.length, by simp, ?_⟩
      rw [List.take_left, List.take_of_length_le (by simp), hstarts]
      refine ⟨rfl, List.length_append, fun hne => h.passed hmode ?_⟩
      exact List.length_pos_iff.mp (Nat.pos_of_ne_zero hne)
  | keep hmode hb hmode' hstarts =>
    refine ⟨hline, fun hin => absurd hin hmode', fun _ hquoted => ⟨b, by simp, ?_⟩, ?_⟩
    · exact fun hbreak => hquoted (hb hbreak)
    · rw [hstarts]
      exact hkept
  | stop hmode hquoted hb hmode' hstarts hstart =>
    refine ⟨hline, ?_, fun hout => absurd hmode' hout, ?_⟩
    · -- the next record has its line from here on, and nothing is skipped yet
      intro _ _
      refine ⟨bs, b, [], ⟨rfl, h.unbroken hmode hquoted, ?_⟩, ?_⟩
      · intro c hc
        rwa [List.mem_singleton.mp hc]
      · rw [hstart, hline]
    · rw [hstarts]
      exact hkept

theorem traced_run (mark : Nat) (bs : Bytes) : Traced mark bs (run mark bs) := by
  induction bs using List.reverseRecOn with
  | nil =>
    refine ⟨rfl, fun _ hne => absurd rfl hne, fun hout => absurd rfl hout, ?_⟩
    intro k start hk
    simp [run, starts, finish, initial] at hk
  | append_singleton bs b ih => exact traced_step mark bs b ih

end Scanner

/-- The `k`-th record of a file starts at the byte that adds it to the records. -/
def StartsAt (file : Bytes) (k p : Nat) : Prop :=
  (split (file.take p)).length = k ∧ (split (file.take (p + 1))).length = k + 1

instance (file : Bytes) (k p : Nat) : Decidable (StartsAt file k p) :=
  inferInstanceAs (Decidable (_ ∧ _))

def lineAt (file : Bytes) (p : Nat) : Nat := 1 + (file.take p).count Scanner.lineFeed

def mark (file : Bytes) : Nat := if byteOrderMark.isPrefixOf file then 3 else 0

theorem split_eq (file : Bytes) :
    split file = (Scanner.run (mark file) (file.drop (mark file))).finish := by
  unfold split mark
  split_ifs <;> rfl

theorem mark_cases (file : Bytes) :
    (∃ rest, file = byteOrderMark ++ rest ∧ mark file = 3) ∨
      ¬ byteOrderMark <+: file ∧ mark file = 0 := by
  by_cases h : byteOrderMark <+: file
  · obtain ⟨rest, rfl⟩ := h
    exact .inl ⟨rest, rfl, if_pos (List.isPrefixOf_iff_prefix.mpr (List.prefix_append _ _))⟩
  · exact .inr ⟨h, if_neg fun hmark => h (List.isPrefixOf_iff_prefix.mp hmark)⟩

theorem mark_take (file : Bytes) (p : Nat) : mark (file.take (mark file + p)) = mark file := by
  rcases mark_cases file with ⟨rest, hfile, hmark⟩ | ⟨hnone, hmark⟩
  · have htake : file.take (mark file + p) = byteOrderMark ++ rest.take p := by
      rw [show mark file = byteOrderMark.length from hmark, hfile, List.take_length_add_append]
    rw [htake, hmark]
    exact if_pos (List.isPrefixOf_iff_prefix.mpr (List.prefix_append _ _))
  · rw [hmark]
    refine if_neg fun h => hnone ?_
    exact (List.isPrefixOf_iff_prefix.mp h).trans (List.take_prefix _ file)

theorem length_split_take (file : Bytes) (p : Nat) :
    (split (file.take (mark file + p))).length =
      (Scanner.run (mark file) ((file.drop (mark file)).take p)).starts.length := by
  rw [split_eq, mark_take, List.drop_take, Nat.add_sub_cancel_left, Scanner.starts, List.length_map]

theorem length_split_take_mono (file : Bytes) (p q : Nat) (h : p ≤ q) :
    (split (file.take (mark file + p))).length ≤ (split (file.take (mark file + q))).length := by
  have hprefix := Scanner.starts_run_append (mark file) ((file.drop (mark file)).take p)
    (((file.drop (mark file)).drop p).take (q - p))
  rw [← List.take_add, Nat.add_sub_cancel' h] at hprefix
  rw [length_split_take, length_split_take]
  exact hprefix.length_le

theorem mark_le_of_startsAt (file : Bytes) (k q : Nat) (hk : k ≠ 0) (h : StartsAt file k q) :
    mark file ≤ q := by
  rcases mark_cases file with ⟨rest, hfile, hmark⟩ | ⟨-, hmark⟩
  · -- a part of the mark is text: it makes one record, which is gone when the mark is whole
    by_contra hlt
    have hfew : ∀ i < 3, (split (byteOrderMark.take (i + 1))).length ≤ 1 := by decide
    have hone := hfew q (by omega)
    have htake : file.take (q + 1) = byteOrderMark.take (q + 1) := by
      rw [hfile]
      exact List.take_append_of_le_length (by simp [byteOrderMark]; omega)
    rw [← htake, h.2] at hone
    omega
  · rw [hmark]
    exact Nat.zero_le q

theorem StartsAt.unique {file : Bytes} {k p q : Nat} (hk : k ≠ 0) (hp : StartsAt file k p)
    (hq : StartsAt file k q) : p = q := by
  obtain ⟨p, rfl⟩ := Nat.exists_eq_add_of_le (mark_le_of_startsAt file k p hk hp)
  obtain ⟨q, rfl⟩ := Nat.exists_eq_add_of_le (mark_le_of_startsAt file k q hk hq)
  have hle (p q : Nat) (hp : StartsAt file k (mark file + p)) (hq : StartsAt file k (mark file + q)) :
      p ≤ q := by
    by_contra hlt
    have hmono := length_split_take_mono file (q + 1) p (by omega)
    rw [← Nat.add_assoc, hq.2, hp.1] at hmono
    omega
  rw [Nat.le_antisymm (hle p q hp hq) (hle q p hq hp)]

theorem exists_startsAt (file : Bytes) (k : Nat) (r : Record) (hk : k ≠ 0)
    (hr : (split file)[k]? = some r) :
    ∃ p, StartsAt file k p ∧ ∃ above b skipped, Gap (file.take p) above b skipped ∧
      r.start.line = 1 + (above ++ [b]).count Scanner.lineFeed := by
  have hstart : (Scanner.run (mark file) (file.drop (mark file))).starts[k]? = some r.start := by
    rw [Scanner.starts, ← split_eq, List.getElem?_map, hr, Option.map_some]
  obtain ⟨p, -, hbefore, hafter, hpassed⟩ :=
    (Scanner.traced_run (mark file) (file.drop (mark file))).started k r.start hstart
  rw [← length_split_take] at hbefore hafter
  obtain ⟨above, b, skipped, hgap, hline⟩ := hpassed hk
  refine ⟨mark file + p, ⟨hbefore, hafter⟩, file.take (mark file) ++ above, b, skipped, ?_, ?_⟩
  · rw [List.take_add]
    exact hgap.append_left _
  · have hmark : (file.take (mark file)).count Scanner.lineFeed = 0 := by
      rcases mark_cases file with ⟨rest, hfile, hmark⟩ | ⟨-, hmark⟩
      · rw [hmark, hfile]
        rfl
      · rw [hmark]
        rfl
    simp only [hline, List.append_assoc, List.count_append, hmark, Nat.zero_add]

end BenchReport.Csv

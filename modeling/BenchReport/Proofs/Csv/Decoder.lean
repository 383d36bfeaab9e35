import BenchReport.Csv.Decoder
import BenchReport.Proofs.Csv.Scanner
import BenchReport.Proofs.Text.Blank
import Mathlib.Data.List.Forall2

namespace BenchReport.Csv

open Text
open String (utf8EncodeChar utf8EncodeChar_ne_nil)

theorem decodeFields_trimmed (record : Nat) (start : Position) (field : Nat) (fs : List Bytes)
    (texts : List String) (h : decodeFields record start field fs = .ok texts) :
    ∀ text ∈ texts, Trimmed text := by
  induction fs generalizing field texts with
  | nil =>
    obtain rfl : [] = texts := Except.ok.inj h
    simp
  | cons f fs ih =>
    rw [decodeFields] at h
    split at h
    · exact nomatch h
    · rename_i text _
      cases hrest : decodeFields record start (field + 1) fs with
      | error fault => simp [hrest, Except.map] at h
      | ok rest =>
        rw [hrest] at h
        obtain rfl : trim text :: rest = texts := Except.ok.inj h
        exact List.forall_mem_cons.mpr ⟨trim_trimmed text, ih (field + 1) rest hrest⟩

theorem decodeRecords_trimmed (width record : Nat) (rs : List Record) (line : Line)
    (hline : line ∈ decodeRecords width record rs) (cells : List String)
    (hcells : line.cells = .ok cells) : ∀ text ∈ cells, Trimmed text := by
  induction rs generalizing record with
  | nil => exact nomatch hline
  | cons r rs ih =>
    rcases List.mem_cons.mp hline with rfl | hline
    · simp only [decodeRecord] at hcells
      split_ifs at hcells
      exact decodeFields_trimmed record r.start 0 _ cells hcells
    · exact ih (record + 1) hline

theorem decode_trimmed (file : Bytes) (header : List String) (lines : List Line)
    (h : decode file = (.ok header, lines)) :
    (∀ text ∈ header, Trimmed text) ∧
      ∀ line ∈ lines, ∀ cells, line.cells = .ok cells → ∀ text ∈ cells, Trimmed text := by
  unfold decode at h
  split at h
  · obtain ⟨hheader, rfl⟩ := Prod.mk.inj h
    obtain rfl : [] = header := Except.ok.inj hheader
    simp
  · rename_i r rs _
    obtain ⟨hheader, rfl⟩ := Prod.mk.inj h
    constructor
    · exact decodeFields_trimmed 0 r.start 0 r.fields header hheader
    · intro line hline cells hcells
      exact decodeRecords_trimmed r.fields.length 1 rs line hline cells hcells

theorem isBlank_of_isBlankByte (c : Char) (b : UInt8) (hb : isBlankByte b)
    (h : b ∈ utf8EncodeChar c) : isBlank c := by
  have hcases : b = 9 ∨ b = 10 ∨ b = 12 ∨ b = 13 ∨ b = 32 := by simpa [isBlankByte] using hb
  have hc : c.toNat = b.toNat := by
    apply toNat_eq_of_mem_utf8EncodeChar c b _ h
    rcases hcases with rfl | rfl | rfl | rfl | rfl <;> decide
  rcases hcases with rfl | rfl | rfl | rfl | rfl <;> simp [isBlank, inRanges, blanks, hc]

def isAsciiBlank (c : Char) : Bool := (utf8EncodeChar c).any isBlankByte

theorem isBlank_of_isAsciiBlank (c : Char) (h : isAsciiBlank c) : isBlank c := by
  obtain ⟨b, hb, hblank⟩ := List.any_eq_true.mp h
  exact isBlank_of_isBlankByte c b hblank hb

theorem isAsciiBlank_of_not_isBlank (c : Char) (h : isBlank c = false) : isAsciiBlank c = false := by
  by_contra hascii
  rw [isBlank_of_isAsciiBlank c (by simpa using hascii)] at h
  exact Bool.noConfusion h

theorem toBytes_bare (s : String) (h : Bare isAsciiBlank s.toList) :
    Bare isBlankByte (toBytes s) := by
  have hchar (c : Char) (hc : isAsciiBlank c = false) (b : UInt8) (hb : b ∈ utf8EncodeChar c) :
      isBlankByte b = false := by
    simpa using List.any_eq_false.mp hc b hb
  constructor
  · intro b hb
    rw [toBytes] at hb
    cases hcs : s.toList with
    | nil => simp [hcs] at hb
    | cons c cs =>
      rw [hcs, List.flatMap_cons, List.head?_append_of_ne_nil _ utf8EncodeChar_ne_nil] at hb
      exact hchar c (h.head c (by rw [hcs]; rfl)) b (List.mem_of_head? hb)
  · intro b hb
    rw [toBytes] at hb
    rcases List.eq_nil_or_concat' s.toList with hcs | ⟨cs, c, hcs⟩
    · simp [hcs] at hb
    · rw [hcs, List.flatMap_append, List.flatMap_singleton,
        List.getLast?_append_of_ne_nil _ utf8EncodeChar_ne_nil] at hb
      exact hchar c (h.last c (by rw [hcs]; simp)) b (List.mem_of_getLast? hb)

theorem stripBlanks_toBytes (s : String) (h : Trimmed s) : stripBlanks (toBytes s) = toBytes s := by
  apply strip_eq_self isBlankByte _ (toBytes_bare s _)
  constructor
  · exact fun c hc => isAsciiBlank_of_not_isBlank c (h.bare.head c hc)
  · exact fun c hc => isAsciiBlank_of_not_isBlank c (h.bare.last c hc)

theorem decodeFields_toBytes (record : Nat) (start : Position) (field : Nat) (texts : List String)
    (h : ∀ f ∈ texts, Trimmed f) :
    decodeFields record start field (texts.map toBytes) = .ok texts := by
  induction texts generalizing field with
  | nil => rfl
  | cons f fs ih =>
    have hrest := ih (field + 1) fun g hg => h g (List.mem_cons_of_mem f hg)
    rw [List.map_cons, decodeFields, ofBytes_toBytes]
    have hf : trim f = f := h f List.mem_cons_self
    simp only [hrest, Except.map, hf]

theorem decodeRecord_toBytes (width record : Nat) (r : Record) (row : List String)
    (hr : r.fields = row.map toBytes) (hwidth : row.length = width) (h : ∀ f ∈ row, Trimmed f) :
    decodeRecord width record r = .ok row := by
  have hstrip : (row.map toBytes).map stripBlanks = row.map toBytes := by
    rw [List.map_map]
    exact List.map_congr_left fun f hf => stripBlanks_toBytes f (h f hf)
  rw [decodeRecord, hr, List.length_map, if_pos hwidth, hstrip]
  exact decodeFields_toBytes record r.start 0 row h

theorem decodeRecords_toBytes (width record : Nat) (rs : List Record) (rows : List (List String))
    (hrs : rs.map (·.fields) = rows.map (·.map toBytes))
    (hrows : ∀ row ∈ rows, row.length = width ∧ ∀ f ∈ row, Trimmed f) :
    List.Forall₂ (fun line row => line.cells = .ok row) (decodeRecords width record rs) rows := by
  induction rows generalizing record rs with
  | nil =>
    rw [List.map_eq_nil_iff.mp hrs]
    exact .nil
  | cons row rows ih =>
    obtain ⟨r, rs, rfl, hr, hrs⟩ := List.map_eq_cons_iff.mp hrs
    obtain ⟨hwidth, htrim⟩ := hrows row List.mem_cons_self
    rw [decodeRecords]
    exact .cons (decodeRecord_toBytes width record r row hr hwidth htrim)
      (ih (record + 1) rs hrs fun q hq => hrows q (List.mem_cons_of_mem row hq))

theorem decode_write (header : List String) (rows : List (List String)) (htwo : 2 ≤ header.length)
    (hmark : byteOrderMark.isPrefixOf (toBytes (write (header :: rows))) = false)
    (hheader : ∀ f ∈ header, Trimmed f)
    (hrows : ∀ row ∈ rows, row.length = header.length ∧ ∀ f ∈ row, Trimmed f) :
    ∃ lines, decode (toBytes (write (header :: rows))) = (.ok header, lines) ∧
      List.Forall₂ (fun line row => line.cells = .ok row) lines rows := by
  have hwide : ∀ row ∈ header :: rows, 2 ≤ row.length := by
    intro row hrow
    rcases List.mem_cons.mp hrow with rfl | hrow
    · exact htwo
    · rw [(hrows row hrow).1]
      exact htwo
  have hsplit := split_write (header :: rows) hwide hmark
  obtain ⟨h, rs, hrecords, hh, hrs⟩ := List.map_eq_cons_iff.mp hsplit
  refine ⟨decodeRecords h.fields.length 1 rs, ?_, ?_⟩
  · rw [decode, hrecords]
    simp only [hh, decodeFields_toBytes 0 h.start 0 header hheader]
  · apply decodeRecords_toBytes _ _ _ _ hrs
    rw [hh, List.length_map]
    exact hrows

end BenchReport.Csv

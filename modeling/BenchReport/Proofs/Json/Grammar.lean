import BenchReport.Proofs.Json.Reading
/-!
The grammar of JSON, what a text in quotes spells, and the two readers of it: one reads a text
character by character, the other goes past any value that the grammar derives, up to the first
character behind it.
-/

namespace BenchReport.Json

open Numeral

def Blanks (cs : List Char) : Prop := ∀ c ∈ cs, isBlank c

def IsHexDigit (c : Char) : Prop := c.isDigit ∨ 'a' ≤ c ∧ c ≤ 'f' ∨ 'A' ≤ c ∧ c ≤ 'F'

inductive IsText : List Char → Prop
  | nil : IsText []
  | plain {c : Char} {cs : List Char} : c ≠ '"' → c ≠ '\\' → 32 ≤ c.toNat → IsText cs →
    IsText (c :: cs)
  | escape {c : Char} {cs : List Char} : c ∈ ['"', '\\', '/', 'b', 'f', 'n', 'r', 't'] →
    IsText cs → IsText ('\\' :: c :: cs)
  | code {a b c d : Char} {cs : List Char} : (∀ x ∈ [a, b, c, d], IsHexDigit x) → IsText cs →
    IsText ('\\' :: 'u' :: a :: b :: c :: d :: cs)

def shortEscapes : List (Char × Char) :=
  [('"', '"'), ('\\', '\\'), ('/', '/'), ('b', Char.ofNat 8), ('f', Char.ofNat 12), ('n', '\n'),
    ('r', '\r'), ('t', '\t')]

inductive IsCode : List Char → Nat → Prop
  | mk {a b c d : Char} {i j k l : Nat} : hexDigit? a = some i → hexDigit? b = some j →
    hexDigit? c = some k → hexDigit? d = some l →
    IsCode [a, b, c, d] (((i * 16 + j) * 16 + k) * 16 + l)

inductive Spells : List Char → List Char → Prop
  | nil : Spells [] []
  | plain {c : Char} {cs s : List Char} : c ≠ '"' → c ≠ '\\' → 32 ≤ c.toNat → Spells cs s →
    Spells (c :: cs) (c :: s)
  | escape {e c : Char} {cs s : List Char} : (e, c) ∈ shortEscapes → Spells cs s →
    Spells ('\\' :: e :: cs) (c :: s)
  | code {ds cs s : List Char} {n : Nat} : IsCode ds n → ¬ (0xd800 ≤ n ∧ n ≤ 0xdfff) →
    Spells cs s → Spells ('\\' :: 'u' :: (ds ++ cs)) (Char.ofNat n :: s)
  | pair {ds ds' cs s : List Char} {m n : Nat} : IsCode ds m → 0xd800 ≤ m ∧ m ≤ 0xdbff →
    IsCode ds' n → 0xdc00 ≤ n ∧ n ≤ 0xdfff → Spells cs s →
    Spells ('\\' :: 'u' :: (ds ++ '\\' :: 'u' :: (ds' ++ cs)))
      (Char.ofNat ((m - 0xd800) * 0x400 + (n - 0xdc00) + 0x10000) :: s)

def IsDigits (ds : List Char) : Prop := ds ≠ [] ∧ ∀ c ∈ ds, c.isDigit

inductive IsUnsigned : List Char → Prop
  | mk {whole fraction power : List Char} : IsDigits whole →
    (whole.head? = some '0' → whole.length = 1) →
    (fraction = [] ∨ ∃ ds, IsDigits ds ∧ fraction = '.' :: ds) →
    (power = [] ∨ ∃ e ∈ ['e', 'E'], ∃ sign ∈ [[], ['+'], ['-']], ∃ ds, IsDigits ds ∧
      power = e :: (sign ++ ds)) →
    IsUnsigned (whole ++ (fraction ++ power))

inductive Phrase where
  | value
  | element
  | items
  | member
  | members

inductive Derives : Phrase → List Char → Prop
  | null : Derives .value ['n', 'u', 'l', 'l']
  | true : Derives .value ['t', 'r', 'u', 'e']
  | false : Derives .value ['f', 'a', 'l', 's', 'e']
  | unsigned {cs : List Char} : IsUnsigned cs → Derives .value cs
  | negative {cs : List Char} : IsUnsigned cs → Derives .value ('-' :: cs)
  | text {cs : List Char} : IsText cs → Derives .value ('"' :: (cs ++ ['"']))
  | emptyList {bs : List Char} : Blanks bs → Derives .value ('[' :: (bs ++ [']']))
  | list {cs : List Char} : Derives .items cs → Derives .value ('[' :: (cs ++ [']']))
  | emptyObject {bs : List Char} : Blanks bs → Derives .value ('\x7b' :: (bs ++ ['\x7d']))
  | object {cs : List Char} : Derives .members cs → Derives .value ('\x7b' :: (cs ++ ['\x7d']))
  | element {bs cs bs' : List Char} : Blanks bs → Derives .value cs → Blanks bs' →
    Derives .element (bs ++ (cs ++ bs'))
  | lastItem {cs : List Char} : Derives .element cs → Derives .items cs
  | items {cs ds : List Char} : Derives .element cs → Derives .items ds →
    Derives .items (cs ++ ',' :: ds)
  | member {bs cs bs' ds : List Char} : Blanks bs → IsText cs → Blanks bs' →
    Derives .element ds → Derives .member (bs ++ '"' :: (cs ++ '"' :: (bs' ++ ':' :: ds)))
  | lastMember {cs : List Char} : Derives .member cs → Derives .members cs
  | members {cs ds : List Char} : Derives .member cs → Derives .members ds →
    Derives .members (cs ++ ',' :: ds)

theorem skipBlanks_append (bs cs : List Char) (h : Blanks bs) :
    skipBlanks (bs ++ cs) = skipBlanks cs :=
  List.dropWhile_append_of_pos h

theorem endsNumber_append (bs cs : List Char) (hbs : Blanks bs) (hcs : EndsNumber cs) :
    EndsNumber (bs ++ cs) := by
  cases bs with
  | nil => exact hcs
  | cons b bs =>
    rintro c ⟨⟩
    have hb : b = ' ' ∨ b = '\n' ∨ b = '\t' ∨ b = '\r' :=
      of_decide_eq_true (hbs b List.mem_cons_self)
    rcases hb with rfl | rfl | rfl | rfl <;> decide

theorem hexDigit?_isSome_iff (c : Char) : (hexDigit? c).isSome ↔ IsHexDigit c := by
  unfold hexDigit? IsHexDigit
  split_ifs with hdigit hlower hupper <;> simp_all

theorem skipText_append (cs rest : List Char) (h : IsText cs) :
    skipText (cs ++ '"' :: rest) = .ok rest := by
  induction h with
  | nil => rfl
  | @plain c cs hquote hslash hcontrol _ ih =>
    have hcontrol' : ¬ c.toNat < 32 := by omega
    simpa [skipText, hquote, hslash, hcontrol'] using ih
  | @escape c cs hc _ ih =>
    simp only [List.mem_cons, List.not_mem_nil, or_false] at hc
    rcases hc with rfl | rfl | rfl | rfl | rfl | rfl | rfl | rfl <;> exact ih
  | @code a b c d cs hhex _ ih =>
    have hall : [a, b, c, d].all fun x => (hexDigit? x).isSome :=
      List.all_eq_true.mpr fun x hx => (hexDigit?_isSome_iff x).mpr (hhex x hx)
    simp only [List.cons_append, skipText, hall, if_true, ih]

theorem hexNumber_append {ds : List Char} {n : Nat} (h : IsCode ds n) (rest : List Char) :
    hexNumber (ds ++ rest) = .ok (n, rest) := by
  obtain @⟨a, b, c, d, i, j, k, l, ha, hb, hc, hd⟩ := h
  simp only [List.cons_append, List.nil_append, hexNumber, ha, hb, hc, hd]

theorem unescape_short (e c : Char) (cs : List Char) (h : (e, c) ∈ shortEscapes) :
    unescape (e :: cs) = .ok (c, cs) := by
  simp only [shortEscapes, List.mem_cons, List.not_mem_nil, or_false, Prod.mk.injEq] at h
  rcases h with ⟨rfl, rfl⟩ | ⟨rfl, rfl⟩ | ⟨rfl, rfl⟩ | ⟨rfl, rfl⟩ | ⟨rfl, rfl⟩ | ⟨rfl, rfl⟩ |
    ⟨rfl, rfl⟩ | ⟨rfl, rfl⟩ <;> rfl

theorem unicodeEscape_code {ds : List Char} {n : Nat} (hds : IsCode ds n)
    (hn : ¬ (0xd800 ≤ n ∧ n ≤ 0xdfff)) (rest : List Char) :
    unicodeEscape (ds ++ rest) = .ok (Char.ofNat n, rest) := by
  have hlow : ¬ (0xdc00 ≤ n ∧ n ≤ 0xdfff) := by omega
  have hhigh : ¬ (0xd800 ≤ n ∧ n ≤ 0xdbff) := by omega
  simp only [unicodeEscape, hexNumber_append hds rest, Bind.bind, Except.bind, hlow, hhigh,
    if_false]

theorem unicodeEscape_pair {ds ds' : List Char} {m n : Nat} (hds : IsCode ds m)
    (hm : 0xd800 ≤ m ∧ m ≤ 0xdbff) (hds' : IsCode ds' n) (hn : 0xdc00 ≤ n ∧ n ≤ 0xdfff)
    (rest : List Char) :
    unicodeEscape (ds ++ '\\' :: 'u' :: (ds' ++ rest)) =
      .ok (Char.ofNat ((m - 0xd800) * 0x400 + (n - 0xdc00) + 0x10000), rest) := by
  have hlow : ¬ (0xdc00 ≤ m ∧ m ≤ 0xdfff) := by omega
  simp only [unicodeEscape, hexNumber_append hds, hexNumber_append hds' rest, skipUnicodeMark,
    Bind.bind, Except.bind, hlow, hm, hn, and_self, if_false, if_true]

theorem readChars_append (key s rest : List Char) (h : Spells key s) (n : Nat)
    (hn : key.length ≤ n) : readChars (n + 1) (key ++ '"' :: rest) = .ok (s, rest) := by
  have hescape (n : Nat) (cs cs' : List Char) (c : Char) (s : List Char)
      (hc : unescape cs = .ok (c, cs')) (hcs : readChars n cs' = .ok (s, rest)) :
      readChars (n + 1) ('\\' :: cs) = .ok (c :: s, rest) := by
    have hquote : ('\\' : Char) ≠ '"' := by decide
    simp only [readChars, hquote, if_false, if_true, hc, hcs, Bind.bind, Except.bind]
  -- what stands for one character is read in one step, and is a character long at least
  have hpos {k n : Nat} (h : k + 1 ≤ n) : ∃ m, n = m + 1 := ⟨n - 1, by omega⟩
  induction h generalizing n with
  | nil => simp [readChars]
  | @plain c cs s hquote hslash hcontrol _ ih =>
    have hcontrol' : ¬ c.toNat < 32 := by omega
    obtain ⟨n, rfl⟩ := hpos hn
    have hread := ih n (Nat.le_of_succ_le_succ hn)
    rw [List.cons_append, readChars]
    simp only [hquote, hslash, hcontrol', if_false, hread, Bind.bind, Except.bind]
  | @escape e c cs s he _ ih =>
    obtain ⟨n, rfl⟩ := hpos hn
    simp only [List.length_cons] at hn
    exact hescape (n + 1) _ _ _ _ (unescape_short e c _ he) (ih n (by omega))
  | @code ds cs s k hds hk _ ih =>
    obtain ⟨n, rfl⟩ := hpos hn
    simp only [List.length_cons, List.length_append] at hn
    simp only [List.cons_append, List.append_assoc]
    exact hescape (n + 1) _ _ _ _ (unicodeEscape_code hds hk _) (ih n (by omega))
  | @pair ds ds' cs s k l hds hk hds' hl _ ih =>
    obtain ⟨n, rfl⟩ := hpos hn
    simp only [List.length_cons, List.length_append] at hn
    simp only [List.cons_append, List.append_assoc]
    exact hescape (n + 1) _ _ _ _ (unicodeEscape_pair hds hk hds' hl _) (ih n (by omega))

theorem readText_append (key : List Char) (name : String) (rest : List Char)
    (h : Spells key name.toList) : readText (key ++ '"' :: rest) = .ok (name, rest) := by
  have hlength : key.length ≤ (key ++ '"' :: rest).length := by simp
  rw [readText, readChars_append key name.toList rest h _ hlength]
  simp [Except.map]

theorem spells_escape (c : Char) (cs s : List Char) (h : Spells cs s) :
    Spells (escape c ++ cs) (c :: s) := by
  have hshort (e c : Char) (hc : (e, c) ∈ shortEscapes) : Spells ('\\' :: e :: cs) (c :: s) :=
    .escape hc h
  have hnumber (k : Nat) (hk : c.toNat = k) : c = Char.ofNat k := by rw [← hk, Char.ofNat_toNat]
  unfold escape
  split_ifs with hquote hslash hback htab hline hfeed hreturn hcontrol
  · exact hquote ▸ hshort '"' '"' (by decide)
  · exact hslash ▸ hshort '\\' '\\' (by decide)
  · exact hnumber 8 hback ▸ hshort 'b' _ (by decide)
  · exact htab ▸ hshort 't' '\t' (by decide)
  · exact hline ▸ hshort 'n' '\n' (by decide)
  · exact hnumber 12 hfeed ▸ hshort 'f' _ (by decide)
  · exact hreturn ▸ hshort 'r' '\r' (by decide)
  · have hcode : IsCode ['0', '0', hexFigure (c.toNat / 16), hexFigure (c.toNat % 16)]
        (((0 * 16 + 0) * 16 + c.toNat / 16) * 16 + c.toNat % 16) :=
      .mk rfl rfl (hexDigit?_hexFigure _ (by omega)) (hexDigit?_hexFigure _ (by omega))
    have hvalue : ((0 * 16 + 0) * 16 + c.toNat / 16) * 16 + c.toNat % 16 = c.toNat := by omega
    rw [hvalue] at hcode
    have hspells := Spells.code hcode (by omega) h
    rwa [Char.ofNat_toNat] at hspells
  · exact .plain hquote hslash (by omega) h

theorem spells_flatMap_escape (s : List Char) : Spells (s.flatMap escape) s := by
  induction s with
  | nil => exact .nil
  | cons c s ih =>
    rw [List.flatMap_cons]
    exact spells_escape c _ s ih

theorem unsign_append (sign ds rest : List Char) (hsign : sign ∈ [[], ['+'], ['-']])
    (hds : IsDigits ds) : (unsign (sign ++ (ds ++ rest))).2 = ds ++ rest := by
  obtain ⟨hne, hdigits⟩ := hds
  obtain ⟨d, ds, rfl⟩ := List.exists_cons_of_ne_nil hne
  have hd : d.isDigit := hdigits d List.mem_cons_self
  have hplain : d ≠ '-' ∧ d ≠ '+' := by
    constructor <;> (rintro rfl; exact absurd hd (by decide))
  simp only [List.mem_cons, List.not_mem_nil, or_false] at hsign
  rcases hsign with rfl | rfl | rfl
  · rw [List.nil_append, List.cons_append]
    unfold unsign
    split <;> simp_all
  · rfl
  · rfl

theorem exists_readPower (atEnd : Fault) (power rest : List Char) (hrest : EndsNumber rest)
    (hpower : power = [] ∨ ∃ e ∈ ['e', 'E'], ∃ sign ∈ [[], ['+'], ['-']], ∃ ds, IsDigits ds ∧
      power = e :: (sign ++ ds)) :
    ∃ p, readPower atEnd (power ++ rest) = .ok (p, rest) := by
  rcases hpower with rfl | ⟨e, he, sign, hsign, ds, hds, rfl⟩
  · exact ⟨_, readPower_append atEnd none rest (by simp) hrest⟩
  · have hletter : e = 'e' ∨ e = 'E' := by simpa using he
    have hdigits := readDigits_append atEnd ds rest hds.1 hds.2 fun c hc => (hrest c hc).1
    rw [List.cons_append, List.append_assoc]
    simp only [readPower, hletter, if_true, unsign_append sign ds rest hsign hds, hdigits,
      Bind.bind, Except.bind]
    exact ⟨_, rfl⟩

theorem skipNumber_append (cs rest : List Char) (h : IsUnsigned cs) (hrest : EndsNumber rest) :
    skipNumber (cs ++ rest) = .ok rest := by
  obtain @⟨whole, fraction, power, hwhole, hleading, hfraction, hpower⟩ := h
  obtain ⟨ds, hds, rfl⟩ : ∃ ds, (∀ c ∈ ds, c.isDigit) ∧
      fraction = if ds = [] then [] else '.' :: ds := by
    rcases hfraction with rfl | ⟨ds, hds, rfl⟩
    · exact ⟨[], by simp, rfl⟩
    · exact ⟨ds, hds.2, (if_neg hds.1).symm⟩
  have hpowerHead : ∀ c ∈ (power ++ rest).head?, c.isDigit = false ∧ c ≠ '.' := by
    rcases hpower with rfl | ⟨e, he, sign, -, ds, -, rfl⟩
    · exact fun c hc => ⟨(hrest c hc).1, (hrest c hc).2.1⟩
    · rintro c ⟨⟩
      simp only [List.mem_cons, List.not_mem_nil, or_false] at he
      rcases he with rfl | rfl <;> decide
  have hfractionHead : ∀ c ∈ ((if ds = [] then [] else '.' :: ds) ++ (power ++ rest)).head?,
      c.isDigit = false := by
    split_ifs
    · exact fun c hc => (hpowerHead c hc).1
    · rintro c ⟨⟩
      decide
  obtain ⟨p, hp⟩ := exists_readPower .malformed power rest hrest hpower
  rw [List.append_assoc, List.append_assoc]
  simp only [skipNumber,
    readWhole_append .malformed whole _ hwhole.1 hwhole.2 hleading hfractionHead,
    readFraction_append .malformed ds _ hds hpowerHead, hp, Bind.bind, Except.bind]

theorem skipColon_append (bs rest : List Char) (h : Blanks bs) :
    skipColon (bs ++ ':' :: rest) = .ok rest := by
  have hcolon : skipBlanks (bs ++ ':' :: rest) = ':' :: rest := by
    rw [skipBlanks_append bs _ h]
    rfl
  simp only [skipColon, hcolon]

theorem IsUnsigned.exists_digit {cs : List Char} (h : IsUnsigned cs) :
    ∃ c ds, cs = c :: ds ∧ c.isDigit := by
  obtain @⟨whole, fraction, power, hwhole, -, -, -⟩ := h
  obtain ⟨c, ds, rfl⟩ := List.exists_cons_of_ne_nil hwhole.1
  exact ⟨c, _, rfl, hwhole.2 c List.mem_cons_self⟩

theorem skipScalar_digit (c : Char) (cs : List Char) (h : c.isDigit) :
    skipScalar (c :: cs) = skipNumber (c :: cs) := by
  have hplain : c ≠ 'n' ∧ c ≠ 't' ∧ c ≠ 'f' ∧ c ≠ '"' ∧ c ≠ '-' := by
    refine ⟨?_, ?_, ?_, ?_, ?_⟩ <;> (rintro rfl; exact absurd h (by decide))
  unfold skipScalar
  split <;> simp_all

def Bracket.opening : Bracket → Char
  | list => '['
  | object => '\x7b'

namespace Expected

theorem skipExpected_succ (n : Nat) (e : Expected) (cs : List Char) (h : e ≠ nothing) :
    skipExpected (n + 1) e cs =
      (e.pass (skipBlanks cs)).bind fun r => skipExpected n r.1 r.2 := by
  cases e with
  | nothing => exact absurd rfl h
  | _ =>
    simp only [skipExpected]
    split <;> simp_all [Except.bind]

theorem skipExpected_append (n : Nat) (e : Expected) (bs cs : List Char) (h : e ≠ nothing)
    (hbs : Blanks bs) : skipExpected n e (bs ++ cs) = skipExpected n e cs := by
  cases n with
  | zero =>
    cases e with
    | nothing => exact absurd rfl h
    | _ => rfl
  | succ n => rw [skipExpected_succ n e _ h, skipExpected_succ n e _ h, skipBlanks_append bs cs hbs]

/-- Where `e` is expected, `cs` leads to where `e'` is, in no more tokens than characters. -/
def Passes (e : Expected) (cs : List Char) (e' : Expected) (rest : List Char) : Prop :=
  ∃ k ≤ cs.length, ∀ n, skipExpected (n + k) e (cs ++ rest) = skipExpected n e' rest

variable {e e' e'' : Expected} {cs ds rest : List Char}

theorem Passes.trans (h : Passes e cs e' (ds ++ rest)) (h' : Passes e' ds e'' rest) :
    Passes e (cs ++ ds) e'' rest := by
  obtain ⟨k, hk, hrun⟩ := h
  obtain ⟨l, hl, hrun'⟩ := h'
  refine ⟨l + k, by rw [List.length_append]; omega, ?_⟩
  intro n
  rw [← Nat.add_assoc, List.append_assoc, hrun, hrun']

theorem passes_blanks (bs : List Char) (hbs : Blanks bs) (he : e ≠ nothing) :
    Passes e bs e rest :=
  ⟨0, Nat.zero_le _, fun n => skipExpected_append n e bs rest he hbs⟩

theorem passes_token (c : Char) (hblank : isBlank c = false) (he : e ≠ nothing)
    (hpass : e.pass (c :: (cs ++ rest)) = .ok (e', rest)) : Passes e (c :: cs) e' rest := by
  refine ⟨1, by rw [List.length_cons]; omega, ?_⟩
  intro n
  rw [skipExpected_succ n e _ he, List.cons_append, skipBlanks_cons c _ hblank, hpass]
  rfl

theorem passes_scalar (around : List Bracket) (hstart : StartsScalar cs)
    (hskip : skipScalar (cs ++ rest) = .ok rest) :
    Passes (value around) cs (afterValue around) rest := by
  obtain ⟨c, ds, rfl, hblank, hplain⟩ := hstart
  apply passes_token c hblank (by simp)
  rw [List.cons_append] at hskip
  simp only [List.mem_cons, List.not_mem_nil, or_false, not_or] at hplain
  simp only [pass]
  unfold passValue
  split <;> simp_all [Except.map]

theorem skipExpected_first (n : Nat) (b : Bracket) (around : List Bracket)
    (h : (skipBlanks cs).head? ≠ some b.closing) :
    skipExpected n (first b around) cs = skipExpected n (item b around) cs := by
  cases n with
  | zero => cases b <;> rfl
  | succ n =>
    rw [skipExpected_succ n _ _ (by simp), skipExpected_succ n _ _ (by cases b <;> simp [item])]
    congr 1
    cases hcs : skipBlanks cs with
    | nil => cases b <;> rfl
    | cons c ds =>
      rw [hcs, List.head?_cons, ne_eq, Option.some.injEq] at h
      cases b <;> simp [pass, passItem, item, h]

theorem Passes.first {b : Bracket} {around : List Bracket} (h : Passes (item b around) cs e' rest)
    (hhead : (skipBlanks (cs ++ rest)).head? ≠ some b.closing) :
    Passes (.first b around) cs e' rest := by
  obtain ⟨k, hk, hrun⟩ := h
  refine ⟨k, hk, ?_⟩
  intro n
  rw [skipExpected_first _ b around hhead, hrun]

theorem derives_head {phrase : Phrase} (h : Derives phrase cs) (b : Bracket) (rest : List Char) :
    (skipBlanks (cs ++ rest)).head? ≠ some b.closing := by
  have hplain (c : Char) (ds : List Char) (hc : isBlank c = false ∧ c ≠ ']' ∧ c ≠ '\x7d') :
      (skipBlanks (c :: ds)).head? ≠ some b.closing := by
    rw [skipBlanks_cons c ds hc.1, List.head?_cons, ne_eq, Option.some.injEq]
    cases b with
    | list => exact hc.2.1
    | object => exact hc.2.2
  induction h generalizing rest with
  | unsigned h =>
    obtain ⟨c, ds, rfl, hc⟩ := h.exists_digit
    refine hplain c _ ⟨isBlank_of_isDigit c hc, ?_, ?_⟩ <;>
      (rintro rfl; exact absurd hc (by decide))
  | element hbs _ _ ih =>
    rw [List.append_assoc, skipBlanks_append _ _ hbs, List.append_assoc]
    exact ih _
  | lastItem _ ih => exact ih rest
  | lastMember _ ih => exact ih rest
  | items _ _ ih _ =>
    rw [List.append_assoc]
    exact ih _
  | members _ _ ih _ =>
    rw [List.append_assoc]
    exact ih _
  | member hbs _ _ _ =>
    rw [List.append_assoc, skipBlanks_append _ _ hbs]
    exact hplain '"' _ (by decide)
  | _ => exact hplain _ _ (by decide)

def PassesPhrase : Phrase → List Char → Prop
  | .value, cs => ∀ around rest, EndsNumber rest →
    Passes (value around) cs (afterValue around) rest
  | .element, cs => ∀ b around rest, EndsNumber rest →
    Passes (value (b :: around)) cs (next b around) rest
  | .items, cs => ∀ around rest,
    Passes (value (.list :: around)) (cs ++ [']']) (afterValue around) rest
  | .member, cs => ∀ around rest, EndsNumber rest →
    Passes (name around) cs (next .object around) rest
  | .members, cs => ∀ around rest,
    Passes (name around) (cs ++ ['\x7d']) (afterValue around) rest

theorem passes_opening (b : Bracket) (around : List Bracket) :
    Passes (value around) [b.opening] (.first b around) rest := by
  apply passes_token _ (by cases b <;> rfl) (by simp)
  cases b <;> rfl

theorem passes_closing (b : Bracket) (around : List Bracket) :
    Passes (next b around) [b.closing] (afterValue around) rest := by
  apply passes_token _ (by cases b <;> rfl) (by simp)
  simp [pass]

theorem passes_comma (b : Bracket) (around : List Bracket) :
    Passes (next b around) [','] (item b around) rest := by
  apply passes_token ',' rfl (by simp)
  cases b <;> rfl

theorem passes_empty (b : Bracket) (around : List Bracket) (bs : List Char) (hbs : Blanks bs) :
    Passes (value around) (b.opening :: (bs ++ [b.closing])) (afterValue around) rest := by
  have hclose : Passes (.first b around) [b.closing] (afterValue around) rest := by
    apply passes_token _ (by cases b <;> rfl) (by simp)
    simp [pass]
  exact (passes_opening b around).trans ((passes_blanks bs hbs (by simp)).trans hclose)

theorem passes_bracketed (b : Bracket) (around : List Bracket)
    (hhead : ∀ rest, (skipBlanks (cs ++ rest)).head? ≠ some b.closing)
    (h : Passes (item b around) (cs ++ [b.closing]) (afterValue around) rest) :
    Passes (value around) (b.opening :: (cs ++ [b.closing])) (afterValue around) rest := by
  apply (passes_opening b around).trans (h.first _)
  rw [List.append_assoc]
  exact hhead _

theorem passes_more (b : Bracket) (around : List Bracket)
    (h : Passes e cs (next b around) (',' :: (ds ++ rest)))
    (hmore : Passes (item b around) ds e' rest) : Passes e (cs ++ ',' :: ds) e' rest := by
  have hcomma : Passes (next b around) [','] (item b around) (ds ++ rest) := passes_comma b around
  have hnext : Passes e (cs ++ [',']) (item b around) (ds ++ rest) := h.trans hcomma
  have hrun := hnext.trans hmore
  rwa [List.append_assoc] at hrun

theorem endsNumber_closing (b : Bracket) : EndsNumber (b.closing :: rest) := by
  rintro c ⟨⟩
  cases b <;> decide

theorem passes_phrase {phrase : Phrase} (h : Derives phrase cs) : PassesPhrase phrase cs := by
  induction h with
  | null => exact fun around rest _ => passes_scalar around ⟨'n', _, rfl, by decide⟩ rfl
  | true => exact fun around rest _ => passes_scalar around ⟨'t', _, rfl, by decide⟩ rfl
  | false => exact fun around rest _ => passes_scalar around ⟨'f', _, rfl, by decide⟩ rfl
  | @unsigned cs h =>
    intro around rest hrest
    obtain ⟨c, ds, rfl, hc⟩ := h.exists_digit
    apply passes_scalar around (startsScalar_digit c ds hc)
    rw [List.cons_append, skipScalar_digit c _ hc]
    exact skipNumber_append (c :: ds) rest h hrest
  | @negative cs h =>
    intro around rest hrest
    exact passes_scalar around ⟨'-', _, rfl, by decide⟩ (skipNumber_append cs rest h hrest)
  | @text cs h =>
    intro around rest _
    apply passes_scalar around ⟨'"', _, rfl, by decide⟩
    rw [List.cons_append, List.append_assoc]
    exact skipText_append cs rest h
  | @emptyList bs h => exact fun around rest _ => passes_empty .list around bs h
  | @list cs h ih =>
    exact fun around rest _ => passes_bracketed .list around (derives_head h .list) (ih around rest)
  | @emptyObject bs h => exact fun around rest _ => passes_empty .object around bs h
  | @object cs h ih =>
    exact fun around rest _ =>
      passes_bracketed .object around (derives_head h .object) (ih around rest)
  | @element bs cs bs' hbs h hbs' ih =>
    intro b around rest hrest
    have hvalue : Passes (value (b :: around)) cs (next b around) (bs' ++ rest) :=
      ih (b :: around) _ (endsNumber_append bs' rest hbs' hrest)
    exact (passes_blanks bs hbs (by simp)).trans (hvalue.trans (passes_blanks bs' hbs' (by simp)))
  | @lastItem cs h ih =>
    intro around rest
    exact (ih .list around _ (endsNumber_closing .list)).trans (passes_closing .list around)
  | @items cs ds h _ ih ihs =>
    intro around rest
    rw [List.append_assoc]
    exact passes_more .list around (ih .list around _ (endsNumber_comma _)) (ihs around rest)
  | @member bs cs bs' ds hbs hcs hbs' h ih =>
    intro around rest hrest
    have hname : Passes (name around) ('"' :: (cs ++ '"' :: (bs' ++ [':'])))
        (value (.object :: around)) (ds ++ rest) := by
      apply passes_token '"' rfl (by simp)
      simp only [List.append_assoc, List.cons_append, List.nil_append, pass, passName,
        skipText_append cs _ hcs, skipColon_append bs' _ hbs', Bind.bind, Except.bind]
    have hrun := (passes_blanks bs hbs (by simp)).trans (hname.trans (ih .object around rest hrest))
    simpa only [List.append_assoc, List.cons_append, List.nil_append] using hrun
  | @lastMember cs h ih =>
    intro around rest
    exact (ih around _ (endsNumber_closing .object)).trans (passes_closing .object around)
  | @members cs ds h _ ih ihs =>
    intro around rest
    rw [List.append_assoc]
    exact passes_more .object around (ih around _ (endsNumber_comma _)) (ihs around rest)

end Expected

theorem skipValue_append (bs cs rest : List Char) (hbs : Blanks bs) (hcs : Derives .value cs)
    (hrest : EndsNumber rest) : skipValue (bs ++ (cs ++ rest)) = .ok rest := by
  have hvalue : Expected.Passes (.value []) cs .nothing rest :=
    Expected.passes_phrase hcs [] rest hrest
  obtain ⟨k, hk, hrun⟩ := (Expected.passes_blanks bs hbs (by simp)).trans hvalue
  obtain ⟨n, hn⟩ : ∃ n, (bs ++ (cs ++ rest)).length + 1 = n + k :=
    ⟨_, (Nat.sub_add_cancel (by simp only [List.length_append] at hk ⊢; omega)).symm⟩
  rw [← List.append_assoc] at hn ⊢
  rw [skipValue, hn, hrun]
  cases n <;> rfl

end BenchReport.Json

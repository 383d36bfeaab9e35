import BenchReport.Proofs.Table.Loading
import Mathlib.Data.List.Nodup

namespace BenchReport

namespace Column

def keys : List String := [treeType, sortedness, readRatio]

end Column

namespace Table

variable {α β : Type}

def metricFields (fields : List (String × α)) : List (String × α) :=
  (Column.keys.foldl (fun fs key => fs.eraseP (·.1 = key)) fields).filter (·.1 ≠ "")

def metricNames (header : List String) : List String := (header.diff Column.keys).filter (· ≠ "")

theorem metricFields_names (fields : List (String × α)) :
    (metricFields fields).map (·.1) = metricNames (fields.map (·.1)) := by
  have herase (keys : List String) (fs : List (String × α)) :
      (keys.foldl (fun fs key => fs.eraseP (·.1 = key)) fs).map (·.1) =
        (fs.map (·.1)).diff keys := by
    induction keys generalizing fs with
    | nil => rfl
    | cons key keys ih =>
      rw [List.foldl_cons, ih, List.diff_cons, List.erase_eq_eraseP, List.eraseP_map]
      congr 3
      funext c
      rw [Function.comp_apply, beq_eq_decide, decide_eq_decide, eq_comm]
  rw [metricFields, metricNames, ← herase, List.filter_map]
  rfl

theorem metricFields_map (f : String × α → β) (fields : List (String × α)) :
    metricFields (fields.map fun c => (c.1, f c)) = (metricFields fields).map fun c => (c.1, f c) := by
  have herase (keys : List String) (fs : List (String × α)) :
      keys.foldl (fun fs key => fs.eraseP (·.1 = key)) (fs.map fun c => (c.1, f c)) =
        (keys.foldl (fun fs key => fs.eraseP (·.1 = key)) fs).map fun c => (c.1, f c) := by
    induction keys generalizing fs with
    | nil => rfl
    | cons key keys ih =>
      rw [List.foldl_cons, List.eraseP_map, ih, List.foldl_cons]
      rfl
  rw [metricFields, herase, List.filter_map]
  rfl

theorem eraseP_eq_filter (cs : List (String × Nat)) (key : String) (i : Nat)
    (hasc : cs.Pairwise fun c d => c.2 < d.2) (hmem : (key, i) ∈ cs)
    (hfirst : ∀ c ∈ cs, c.1 = key → i ≤ c.2) :
    cs.eraseP (·.1 = key) = cs.filter (·.2 ≠ i) := by
  induction cs with
  | nil => cases hmem
  | cons c cs ih =>
    obtain ⟨hc, hcs⟩ := List.pairwise_cons.mp hasc
    obtain ⟨hcfirst, hcsfirst⟩ := List.forall_mem_cons.mp hfirst
    by_cases hname : c.1 = key
    · have hplace : c.2 = i := by
        rcases List.mem_cons.mp hmem with rfl | hmem
        · rfl
        · have hlow := hcfirst hname
          have hhigh := hc _ hmem
          omega
      have hrest : cs.filter (·.2 ≠ i) = cs := by
        apply List.filter_eq_self.mpr
        intro d hd
        have hlt := hc d hd
        simp only [ne_eq, decide_eq_true_eq]
        omega
      rw [List.eraseP_cons_of_pos (by simpa using hname), List.filter_cons_of_neg (by simpa using hplace),
        hrest]
    · have hrest : (key, i) ∈ cs := by
        rcases List.mem_cons.mp hmem with rfl | hmem
        · exact absurd rfl hname
        · exact hmem
      have hplace : c.2 ≠ i := Nat.ne_of_lt (hc _ hrest)
      rw [List.eraseP_cons_of_neg (by simpa using hname), List.filter_cons_of_pos (by simpa using hplace),
        ih hcs hrest hcsfirst]

theorem foldl_eraseP_eq_filter (firsts cs : List (String × Nat)) (hnames : (firsts.map (·.1)).Nodup)
    (hasc : cs.Pairwise fun c d => c.2 < d.2)
    (hfirsts : ∀ p ∈ firsts, p ∈ cs ∧ ∀ c ∈ cs, c.1 = p.1 → p.2 ≤ c.2) :
    (firsts.map (·.1)).foldl (fun fs key => fs.eraseP (·.1 = key)) cs =
      cs.filter (·.2 ∉ firsts.map (·.2)) := by
  induction firsts generalizing cs with
  | nil => simp
  | cons p firsts ih =>
    obtain ⟨⟨hp, hpfirst⟩, hrest⟩ := List.forall_mem_cons.mp hfirsts
    obtain ⟨hpname, hnames⟩ := List.nodup_cons.mp hnames
    have hplaces : (cs.map (·.2)).Nodup := (List.pairwise_map.mpr hasc).imp Nat.ne_of_lt
    rw [List.map_cons, List.foldl_cons, eraseP_eq_filter cs p.1 p.2 hasc hp hpfirst,
      ih _ hnames (hasc.filter _), List.filter_filter]
    · apply List.filter_congr
      intro c _
      rw [List.map_cons, ← Bool.decide_and, decide_eq_decide, List.mem_cons, not_or, and_comm]
    · intro q hq
      obtain ⟨hqmem, hqfirst⟩ := hrest q hq
      have hplace : q.2 ≠ p.2 := by
        intro heq
        have hsame := List.inj_on_of_nodup_map hplaces hqmem hp heq
        exact hpname (hsame ▸ List.mem_map_of_mem hq)
      refine ⟨List.mem_filter.mpr ⟨hqmem, by simpa using hplace⟩, ?_⟩
      intro c hc
      exact hqfirst c (List.mem_filter.mp hc).1

theorem first_of_idxOf? (header : List String) (key : String) (i : Nat)
    (h : header.idxOf? key = some i) :
    (key, i) ∈ header.zipIdx ∧ ∀ c ∈ header.zipIdx, c.1 = key → i ≤ c.2 := by
  obtain ⟨hi, hkey, hbefore⟩ := List.findIdx?_eq_some_iff_getElem.mp h
  constructor
  · apply List.mem_zipIdx_iff_getElem?.mpr
    rw [List.getElem?_eq_getElem hi, eq_of_beq hkey]
  · rintro ⟨name, j⟩ hc rfl
    by_contra hlt
    have hj := List.mem_zipIdx_iff_getElem?.mp hc
    obtain ⟨hjlt, hname⟩ := List.getElem?_eq_some_iff.mp hj
    apply hbefore j (by omega)
    simpa using hname

theorem zipIdx_ascending (header : List String) :
    header.zipIdx.Pairwise fun c d => c.2 < d.2 := by
  have hplaces : (header.zipIdx.map (·.2)).Pairwise (· < ·) := by
    rw [List.zipIdx_map_snd]
    exact List.pairwise_lt_range'
  exact List.pairwise_map.mp hplaces

theorem metricColumns_eq (header : List String) (tree sortedness ratio : Nat)
    (htree : header.idxOf? Column.treeType = some tree)
    (hsortedness : header.idxOf? Column.sortedness = some sortedness)
    (hratio : header.idxOf? Column.readRatio = some ratio) :
    metricColumns [tree, sortedness, ratio] header =
      (metricFields header.zipIdx).map fun c => (c.2, c.1) := by
  have herase := foldl_eraseP_eq_filter
    [(Column.treeType, tree), (Column.sortedness, sortedness), (Column.readRatio, ratio)]
    header.zipIdx
  simp only [List.map_cons, List.map_nil, List.forall_mem_cons, List.not_mem_nil, false_implies,
    implies_true, and_true] at herase
  specialize herase (by decide) (zipIdx_ascending header) ⟨first_of_idxOf? header _ tree htree,
    first_of_idxOf? header _ sortedness hsortedness, first_of_idxOf? header _ ratio hratio⟩
  rw [metricColumns, metricFields, Column.keys, herase, List.filter_filter]
  congr 1
  apply List.filter_congr
  intro c _
  have hempty : c.1.isEmpty = decide (c.1 = "") := by
    rw [Bool.eq_iff_iff, String.isEmpty_iff, decide_eq_true_iff]
  rw [hempty, Bool.and_comm]
  simp

theorem keyIndex_eq_ok_iff (source : Path) (header : List String) (key : String) (i : Nat) :
    keyIndex source header key = .ok i ↔ header.idxOf? key = some i := by
  unfold keyIndex
  cases header.idxOf? key <;> simp

theorem keyIndex_eq_error_iff (source : Path) (header : List String) (key : String) (f : DataFault) :
    keyIndex source header key = .error f ↔ key ∉ header ∧ f = .missingColumn key source := by
  rw [← List.idxOf?_eq_none_iff]
  unfold keyIndex
  cases header.idxOf? key <;> simp [eq_comm]

theorem layout_eq_ok_iff (source : Path) (header : List String) (l : Layout) :
    layout source header = .ok l ↔ header.idxOf? Column.treeType = some l.treeType ∧
      header.idxOf? Column.sortedness = some l.sortedness ∧
      header.idxOf? Column.readRatio = some l.readRatio ∧
      l.metrics = (metricFields header.zipIdx).map fun c => (c.2, c.1) := by
  simp only [layout, bind_eq_ok_iff, pure_eq_ok_iff, keyIndex_eq_ok_iff]
  constructor
  · rintro ⟨tree, htree, sortedness, hsortedness, ratio, hratio, rfl⟩
    exact ⟨htree, hsortedness, hratio,
      metricColumns_eq header tree sortedness ratio htree hsortedness hratio⟩
  · rintro ⟨htree, hsortedness, hratio, hmetrics⟩
    refine ⟨_, htree, _, hsortedness, _, hratio, ?_⟩
    rw [metricColumns_eq header _ _ _ htree hsortedness hratio, ← hmetrics]

theorem exists_idxOf?_iff (header : List String) (key : String) :
    (∃ i, header.idxOf? key = some i) ↔ key ∈ header := by
  rw [← Option.isSome_iff_exists, Option.isSome_iff_ne_none, Ne, List.idxOf?_eq_none_iff, not_not]

theorem exists_layout_iff (source : Path) (header : List String) :
    (∃ l, layout source header = .ok l) ↔ ∀ key ∈ Column.keys, key ∈ header := by
  simp only [Column.keys, List.forall_mem_cons, List.not_mem_nil, false_implies, implies_true,
    and_true, ← exists_idxOf?_iff header, layout_eq_ok_iff]
  constructor
  · rintro ⟨l, htree, hsortedness, hratio, -⟩
    exact ⟨⟨_, htree⟩, ⟨_, hsortedness⟩, _, hratio⟩
  · rintro ⟨⟨tree, htree⟩, ⟨sortedness, hsortedness⟩, ratio, hratio⟩
    exact ⟨⟨tree, sortedness, ratio, _⟩, htree, hsortedness, hratio, rfl⟩

theorem layout_eq_error_iff (source : Path) (header : List String) (f : DataFault) :
    layout source header = .error f ↔ ∃ before key after, Column.keys = before ++ key :: after ∧
      (∀ k ∈ before, k ∈ header) ∧ key ∉ header ∧ f = .missingColumn key source := by
  have hnext (key : String) (keys : List String) := exists_first_cons_iff (· ∈ header)
    (fun _ key => key ∉ header ∧ f = .missingColumn key source) key keys
  rw [Column.keys, hnext, hnext, hnext]
  simp [layout, bind_eq_error_iff, keyIndex_eq_error_iff, keyIndex_eq_ok_iff, pure, Except.pure,
    exists_idxOf?_iff]

theorem lookup_zip (header cells : List String) (key : String) (i : Nat)
    (hlength : cells.length = header.length) (hi : header.idxOf? key = some i) :
    (header.zip cells).lookup key = some (cell cells i) := by
  induction header generalizing cells i with
  | nil => cases hi
  | cons name header ih =>
    obtain ⟨text, cells, rfl⟩ := List.exists_cons_of_length_eq_add_one hlength
    rw [List.zip_cons_cons, List.lookup_cons]
    rw [List.idxOf?_cons] at hi
    by_cases hname : name = key
    · simp only [hname, beq_self_eq_true, if_true, Option.some.injEq] at hi
      simp [hname, ← hi, cell]
    · have hother : (key == name) = false := by simpa using Ne.symm hname
      simp only [hname, beq_iff_eq, if_false, Option.map_eq_some_iff] at hi
      obtain ⟨j, hj, rfl⟩ := hi
      simp only [hother, ih cells j (Nat.succ.inj hlength) hj]
      simp [cell]

theorem zip_eq_map_zipIdx (header cells : List String) (hlength : cells.length = header.length) :
    header.zip cells = header.zipIdx.map fun c => (c.1, cell cells c.2) := by
  apply List.ext_getElem
  · simp [hlength]
  · intro i hi _
    have hcell : i < cells.length := by
      rw [List.length_zip] at hi
      omega
    simp [cell, List.getElem?_eq_getElem hcell]

theorem fields_of_layout (source : Path) (header cells : List String) (l : Layout)
    (h : layout source header = .ok l) (hlength : cells.length = header.length) :
    (header.zip cells).lookup Column.treeType = some (cell cells l.treeType) ∧
      (header.zip cells).lookup Column.sortedness = some (cell cells l.sortedness) ∧
      (header.zip cells).lookup Column.readRatio = some (cell cells l.readRatio) ∧
      metricFields (header.zip cells) = l.metrics.map fun m => (m.2, cell cells m.1) := by
  obtain ⟨htree, hsortedness, hratio, hmetrics⟩ := (layout_eq_ok_iff source header l).mp h
  refine ⟨lookup_zip header cells _ _ hlength htree, lookup_zip header cells _ _ hlength hsortedness,
    lookup_zip header cells _ _ hlength hratio, ?_⟩
  rw [zip_eq_map_zipIdx header cells hlength, metricFields_map, hmetrics, List.map_map]
  rfl

theorem layout_names (source : Path) (header : List String) (l : Layout)
    (h : layout source header = .ok l) : l.metrics.map (·.2) = metricNames header := by
  obtain ⟨-, -, -, hmetrics⟩ := (layout_eq_ok_iff source header l).mp h
  have hnames := metricFields_names header.zipIdx
  rw [List.zipIdx_map_fst] at hnames
  rw [hmetrics, List.map_map, ← hnames]
  rfl

end Table

end BenchReport

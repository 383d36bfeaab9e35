import BenchReport.Proofs.Disk.Writing
import Mathlib.Data.List.Nodup

namespace BenchReport

namespace Disk

open BenchReport.Path

theorem text_of_foldlM_enter (d : Disk) (ps : List (List Char))
    (hps : ∀ piece ∈ ps, isIdle piece = false ∧ piece ≠ ['.', '.']) (p q : Place)
    (h : ps.foldlM d.enter p = .ok q) : q.text.toList = p.text.toList ++ ps.flatMap ('/' :: ·) := by
  induction ps generalizing p with
  | nil =>
    obtain rfl := Except.ok.inj h
    simp
  | cons piece ps ih =>
    obtain ⟨⟨hidle, hparent⟩, hps⟩ := List.forall_mem_cons.mp hps
    rw [List.foldlM_cons, bind_eq_ok_iff] at h
    obtain ⟨next, hnext, hrest⟩ := h
    obtain rfl := enter_child d p next piece hidle hparent hnext
    rw [ih hps _ hrest]
    simp [Place.child]

theorem text_of_descends (d : Disk) (other : Path) (hother : Descends other) (p q : Place)
    (h : (pieces other.toList).foldlM d.enter p = .ok q) : q.text = p.text ++ "/" ++ other := by
  rw [← String.toList_inj, text_of_foldlM_enter d _ hother p q h, flatMap_pieces]
  simp

theorem start_append_slash (d : Disk) (f other : Path) :
    d.start (f ++ "/" ++ other) = d.start (f ++ "/") := by
  have hhead : isAbsolute (f ++ "/" ++ other) = isAbsolute (f ++ "/") := by
    unfold isAbsolute
    rw [String.toList_append (s := f ++ "/"), List.head?_append]
    cases hslash : (f ++ "/").toList.head? with
    | none => simp at hslash
    | some c => rfl
  rw [start, hhead, start]

theorem exists_directory (d : Disk) (base : Path) :
    ∃ text, ∀ other p, Descends other → d.locate (join base other) = .ok p →
      p.text = text ++ "/" ++ other := by
  rcases front_cases base with hnone | ⟨f, hf⟩
  · refine ⟨d.home.text, fun other p hother hp => ?_⟩
    have hstart : d.start other = d.home := by rw [start, hother.isAbsolute, if_neg Bool.false_ne_true]
    rw [join_eq_front base other hother.isAbsolute, hnone, String.empty_append, locate,
      bind_eq_ok_iff, hstart] at hp
    obtain ⟨-, -, hp⟩ := hp
    exact text_of_descends d other hother d.home p hp
  · have hsteps (other : Path) (p : Place) (hother : Descends other)
        (hp : d.locate (join base other) = .ok p) :
        ∃ q, (pieces f.toList).foldlM d.enter (d.start (f ++ "/")) = .ok q ∧
          p.text = q.text ++ "/" ++ other := by
      have htext : (f ++ "/" ++ other).toList = f.toList ++ '/' :: other.toList := by simp
      rw [join_eq_front base other hother.isAbsolute, hf, locate, start_append_slash, htext,
        pieces_append_slash] at hp
      simp only [bind_eq_ok_iff, List.foldlM_append] at hp
      obtain ⟨-, -, q, hq, hp⟩ := hp
      exact ⟨q, hq, text_of_descends d other hother q p hp⟩
    cases hdirectory : (pieces f.toList).foldlM d.enter (d.start (f ++ "/")) with
    | error e =>
      refine ⟨"", fun other p hother hp => ?_⟩
      obtain ⟨q, hq, -⟩ := hsteps other p hother hp
      rw [hdirectory] at hq
      cases hq
    | ok q =>
      refine ⟨q.text, fun other p hother hp => ?_⟩
      obtain ⟨q', hq, htext⟩ := hsteps other p hother hp
      rw [hdirectory] at hq
      rw [Except.ok.inj hq, htext]

theorem locate_join_inj (d : Disk) {base other other' : Path} {p : Place} (hother : Descends other)
    (hother' : Descends other') (hp : d.locate (join base other) = .ok p)
    (hp' : d.locate (join base other') = .ok p) : other = other' := by
  obtain ⟨text, htext⟩ := exists_directory d base
  have hspelled := (htext other p hother hp).symm.trans (htext other' p hother' hp')
  exact (String.append_right_inj _).mp hspelled

theorem Written.keeps {d d' : Disk} {base : Path} {files named : List (Path × Bytes)}
    (h : Written d files d') (hfiles : ∀ f ∈ files, ∃ n ∈ named, f = (join base n.1, n.2))
    (hnames : ∀ n ∈ named, Descends n.1) (hdistinct : (named.map (·.1)).Nodup) (n : Path × Bytes)
    (hn : n ∈ named) (hfile : (join base n.1, n.2) ∈ files) :
    d'.entryAt (join base n.1) = .ok (.file n.2) := by
  obtain ⟨p, hp, f, hf, hlocate, hcontent⟩ := h.exists_last _ hfile
  obtain ⟨last, hlast, rfl⟩ := hfiles f hf
  have hname := locate_join_inj d' (hnames last hlast) (hnames n hn) hlocate hp
  obtain rfl := List.inj_on_of_nodup_map hdistinct hlast hn hname
  exact (entryAt_eq_ok_iff _ _ _).mpr ⟨p, hp, (content?_eq_some_iff _ _ _).mp hcontent⟩

end Disk

end BenchReport

import BenchReport.Proofs.Disk
import BenchReport.Proofs.Path

namespace BenchReport.Disk

def content? (d : Disk) (p : Place) : Option Bytes :=
  match d.find? p with
  | some (.file content) => some content
  | _ => none

theorem content?_eq_some_iff (d : Disk) (p : Place) (content : Bytes) :
    d.content? p = some content ↔ d.find? p = some (.file content) := by
  unfold content?
  split
  · simp [*]
  · rename_i hfile
    simpa using hfile content

theorem find?_put_self (d : Disk) (p : Place) (e : DiskEntry) : (d.put p e).find? p = some e := by
  simp [find?, put]

theorem find?_put_of_ne (d : Disk) (p q : Place) (e : DiskEntry) (h : q ≠ p) :
    (d.put p e).find? q = d.find? q := by
  have hkept : (d.entries.filter (·.1 ≠ p)).lookup q = d.entries.lookup q := by
    induction d.entries with
    | nil => rfl
    | cons entry entries ih =>
      obtain ⟨r, e⟩ := entry
      rw [List.filter_cons]
      split_ifs with hr
      · rw [List.lookup_cons, ih, List.lookup_cons]
      · obtain rfl : r = p := by simpa using hr
        have hother : (q == r) = false := by simpa using h
        rw [ih, List.lookup_cons, hother]
  have hother : (q == p) = false := by simpa using h
  rw [find?, put, List.lookup_cons, hother, hkept, find?]

theorem content?_put_of_ne (d : Disk) (p q : Place) (e : DiskEntry) (h : q ≠ p) :
    (d.put p e).content? q = d.content? q := by
  rw [content?, content?, find?_put_of_ne d p q e h]

structure Extends (d d' : Disk) : Prop where
  home : d'.home = d.home
  directory : ∀ p, d.find? p = some .directory → d'.find? p = some .directory
  file : ∀ p, (d.content? p).isSome → (d'.content? p).isSome

namespace Extends

theorem refl (d : Disk) : Extends d d := ⟨rfl, fun _ h => h, fun _ h => h⟩

theorem trans {d d₁ d₂ : Disk} (h₁ : Extends d d₁) (h₂ : Extends d₁ d₂) : Extends d d₂ :=
  ⟨h₂.home.trans h₁.home, fun p h => h₂.directory p (h₁.directory p h),
    fun p h => h₂.file p (h₁.file p h)⟩

theorem enter {d d' : Disk} (h : Extends d d') (p q : Place) (piece : List Char)
    (hq : d.enter p piece = .ok q) : d'.enter p piece = .ok q := by
  cases hp : d.find? p with
  | none => simp [Disk.enter, hp] at hq
  | some entry =>
    cases entry with
    | file content => simp [Disk.enter, hp] at hq
    | directory =>
      rw [← hq]
      simp only [Disk.enter, hp, h.directory p hp]

theorem locate {d d' : Disk} (h : Extends d d') (path : Path) (p : Place)
    (hp : d.locate path = .ok p) : d'.locate path = .ok p := by
  have hfold (pieces : List (List Char)) (q : Place) (hq : pieces.foldlM d.enter q = .ok p) :
      pieces.foldlM d'.enter q = .ok p := by
    induction pieces generalizing q with
    | nil => exact hq
    | cons piece pieces ih =>
      rw [List.foldlM_cons, bind_eq_ok_iff] at hq ⊢
      obtain ⟨next, hnext, hrest⟩ := hq
      exact ⟨next, h.enter q next piece hnext, ih next hrest⟩
  have hstart : d'.start path = d.start path := by rw [start, start, h.home]
  rw [Disk.locate, bind_eq_ok_iff] at hp ⊢
  obtain ⟨u, hcheck, hp⟩ := hp
  rw [hstart]
  exact ⟨u, hcheck, hfold _ _ hp⟩

end Extends

theorem entryAt_eq_ok_iff (d : Disk) (path : Path) (e : DiskEntry) :
    d.entryAt path = .ok e ↔ ∃ p, d.locate path = .ok p ∧ d.find? p = some e := by
  rw [entryAt, bind_eq_ok_iff]
  refine exists_congr fun p => and_congr_right fun _ => ?_
  split <;> simp [*]

theorem write_eq_ok_iff (d : Disk) (path : Path) (content : Bytes) (d' : Disk) :
    d.write path content = .ok d' ↔ ∃ p, d.locate path = .ok p ∧
      d.find? p ≠ some .directory ∧ d' = d.put p (.file content) := by
  rw [write, bind_eq_ok_iff]
  refine exists_congr fun p => and_congr_right fun _ => ?_
  split
  · simp [*]
  · rename_i hfree
    simp [mt hfree, eq_comm]

theorem write_extends (d : Disk) (path : Path) (content : Bytes) (d' : Disk)
    (h : d.write path content = .ok d') : Extends d d' := by
  obtain ⟨p, -, hp, rfl⟩ := (write_eq_ok_iff d path content d').mp h
  refine ⟨rfl, ?_, ?_⟩
  · intro q hq
    have hne : q ≠ p := by
      rintro rfl
      exact hp hq
    rw [find?_put_of_ne d p q _ hne, hq]
  · intro q hq
    by_cases hqp : q = p
    · rw [hqp, (content?_eq_some_iff _ p content).mpr (find?_put_self d p _)]
      rfl
    · rwa [content?_put_of_ne d p q _ hqp]

theorem makeMissing_keeps_files (pieces : List (List Char)) (d : Disk) (made : Bool) (p : Place) :
    Extends d (d.makeMissing made p pieces).1 ∧
      ∀ q, (d.makeMissing made p pieces).1.content? q = d.content? q := by
  induction pieces generalizing d made p with
  | nil => exact ⟨.refl d, fun _ => rfl⟩
  | cons piece pieces ih =>
    unfold makeMissing
    cases d.enter p piece with
    | error e =>
      dsimp only
      split_ifs <;> exact ⟨.refl d, fun _ => rfl⟩
    | ok next =>
      dsimp only
      split_ifs with hthere
      · exact ih d made next
      · exact ⟨.refl d, fun _ => rfl⟩
      · -- the new directory stands where there was nothing
        have hnone : d.find? next = none := by simpa using hthere
        have hcontent (q : Place) : (d.put next .directory).content? q = d.content? q := by
          by_cases hq : q = next
          · simp [content?, hq, hnone, find?_put_self]
          · exact content?_put_of_ne d next q _ hq
        have hput : Extends d (d.put next .directory) := by
          refine ⟨rfl, ?_, ?_⟩
          · intro q hq
            have hne : q ≠ next := by
              rintro rfl
              rw [hnone] at hq
              cases hq
            rw [find?_put_of_ne d next q _ hne, hq]
          · intro q hq
            rwa [hcontent]
        obtain ⟨hrest, hsame⟩ := ih (d.put next .directory) true next
        exact ⟨hput.trans hrest, fun q => (hsame q).trans (hcontent q)⟩

theorem createDirectories_keeps_files (d : Disk) (path : Path) :
    Extends d (d.createDirectories path).1 ∧
      ∀ q, (d.createDirectories path).1.content? q = d.content? q := by
  unfold createDirectories
  split
  · exact ⟨.refl d, fun _ => rfl⟩
  · split
    · exact ⟨.refl d, fun _ => rfl⟩
    · exact makeMissing_keeps_files _ _ _ _

theorem createDirectories_ok_content? {d d' : Disk} {path : Path}
    (h : d.createDirectories path = (d', .ok ())) (p : Place) : d'.content? p = d.content? p := by
  have hsame := (createDirectories_keeps_files d path).2 p
  rwa [h] at hsame

inductive Written : Disk → List (Path × Bytes) → Disk → Prop
  | nil (d : Disk) : Written d [] d
  | cons {d d₁ d₂ : Disk} {path : Path} {content : Bytes} {files : List (Path × Bytes)} :
    d.write path content = .ok d₁ → Written d₁ files d₂ → Written d ((path, content) :: files) d₂

namespace Written

theorem append {d d₁ d₂ : Disk} {files more : List (Path × Bytes)} (h₁ : Written d files d₁)
    (h₂ : Written d₁ more d₂) : Written d (files ++ more) d₂ := by
  induction h₁ with
  | nil => exact h₂
  | cons hwrite _ ih => exact .cons hwrite (ih h₂)

theorem extends_of {d d' : Disk} {files : List (Path × Bytes)} (h : Written d files d') :
    Extends d d' := by
  induction h with
  | nil d => exact .refl d
  | cons hwrite _ ih => exact (write_extends _ _ _ _ hwrite).trans ih

theorem content?_cases {d d' : Disk} {files : List (Path × Bytes)} (h : Written d files d')
    (q : Place) : d'.content? q = d.content? q ∨
      ∃ f ∈ files, d'.locate f.1 = .ok q ∧ d'.content? q = some f.2 := by
  induction h with
  | nil => exact .inl rfl
  | @cons d d₁ d₂ path content files hwrite hrest ih =>
    rcases ih with hsame | ⟨f, hf, hlater⟩
    · obtain ⟨p, hp, -, rfl⟩ := (write_eq_ok_iff d path content d₁).mp hwrite
      by_cases hqp : q = p
      · have hthere := (content?_eq_some_iff _ p content).mpr (find?_put_self d p _)
        have hlocate := ((write_extends _ _ _ _ hwrite).trans hrest.extends_of).locate path p hp
        rw [hqp] at hsame ⊢
        exact .inr ⟨(path, content), List.mem_cons_self, hlocate, hsame.trans hthere⟩
      · exact .inl (hsame.trans (content?_put_of_ne d p q _ hqp))
    · exact .inr ⟨f, List.mem_cons_of_mem _ hf, hlater⟩

theorem exists_last {d d' : Disk} {files : List (Path × Bytes)} (h : Written d files d') :
    ∀ f ∈ files, ∃ p, d'.locate f.1 = .ok p ∧
      ∃ g ∈ files, d'.locate g.1 = .ok p ∧ d'.content? p = some g.2 := by
  induction h with
  | nil => simp
  | @cons d d₁ d₂ path content files hwrite hrest ih =>
    refine List.forall_mem_cons.mpr ⟨?_, ?_⟩
    · obtain ⟨p, hp, -, rfl⟩ := (write_eq_ok_iff d path content d₁).mp hwrite
      have hlocate := ((write_extends _ _ _ _ hwrite).trans hrest.extends_of).locate path p hp
      rcases hrest.content?_cases p with hsame | ⟨g, hg, hlater⟩
      · have hthere := (content?_eq_some_iff _ p content).mpr (find?_put_self d p _)
        exact ⟨p, hlocate, (path, content), List.mem_cons_self, hlocate, hsame.trans hthere⟩
      · exact ⟨p, hlocate, g, List.mem_cons_of_mem _ hg, hlater⟩
    · intro f hf
      obtain ⟨p, hp, g, hg, hlast⟩ := ih f hf
      exact ⟨p, hp, g, List.mem_cons_of_mem _ hg, hlast⟩

theorem exists_file {d d' : Disk} {files : List (Path × Bytes)} (h : Written d files d') :
    ∀ f ∈ files, ∃ content, d'.entryAt f.1 = .ok (.file content) := by
  intro f hf
  obtain ⟨p, hp, g, -, -, hcontent⟩ := h.exists_last f hf
  exact ⟨g.2, (entryAt_eq_ok_iff _ _ _).mpr ⟨p, hp, (content?_eq_some_iff _ _ _).mp hcontent⟩⟩

theorem content?_eq {d d' : Disk} {files : List (Path × Bytes)} (h : Written d files d') (q : Place)
    (hq : ∀ f ∈ files, d'.locate f.1 ≠ .ok q) : d'.content? q = d.content? q := by
  rcases h.content?_cases q with hsame | ⟨f, hf, hlocate, -⟩
  · exact hsame
  · exact absurd hlocate (hq f hf)

end Written

theorem enter_child (d : Disk) (p q : Place) (piece : List Char)
    (hidle : Path.isIdle piece = false) (hparent : piece ≠ ['.', '.'])
    (h : d.enter p piece = .ok q) : q = p.child piece := by
  unfold enter at h
  split at h
  · cases h
  · cases h
  · simp only [hidle, hparent, Bool.false_eq_true, if_false] at h
    split_ifs at h
    exact (Except.ok.inj h).symm

theorem enter_name (d : Disk) (p q : Place) (name : List Char) (c : Char) (hdot : c ≠ '.')
    (h : d.enter p (name ++ [c]) = .ok q) : q = p.child (name ++ [c]) := by
  have hidle : Path.isIdle (name ++ [c]) = false := by
    simp [Path.isIdle, List.append_eq_singleton_iff, hdot]
  have hparent : name ++ [c] ≠ ['.', '.'] := by
    intro hname
    have hlast := congrArg List.getLast? hname
    rw [List.getLast?_concat] at hlast
    exact hdot (Option.some.inj hlast)
  exact enter_child d p q _ hidle hparent h

theorem locate_getLast? (d : Disk) (path : Path) (p : Place) (c : Char)
    (hlast : path.toList.getLast? = some c) (hslash : c ≠ '/') (hdot : c ≠ '.')
    (h : d.locate path = .ok p) : p.text.toList.getLast? = some c := by
  obtain ⟨cs, hcs⟩ := List.getLast?_eq_some_iff.mp hlast
  obtain ⟨front, name, -, hpieces⟩ := Path.pieces_append cs [c] (by simpa using Ne.symm hslash)
  rw [locate, hcs, hpieces] at h
  simp only [bind_eq_ok_iff, List.foldlM_append, List.foldlM_cons, List.foldlM_nil,
    pure_eq_ok_iff] at h
  obtain ⟨-, -, q, -, r, henter, rfl⟩ := h
  rw [enter_name d q r name c hdot henter]
  exact Path.append_getLast? (q.text ++ "/") _ c (by simp)

end BenchReport.Disk

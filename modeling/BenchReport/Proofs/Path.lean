import BenchReport.Proofs.Path.Pieces

namespace BenchReport.Path

theorem withExtension_cases (p : Path) :
    (∃ stem, ∀ extension, withExtension p extension = stem ++ "." ++ extension) ∨
      ∀ extension, fileName? (withExtension p extension).toList = none := by
  cases hname : fileName? p.toList with
  | none =>
    right
    intro extension
    simp only [withExtension, hname]
  | some name =>
    -- the text behind the dot of the old extension is cut off before the name is looked for again
    let kept := String.ofList (p.toList.take (p.toList.length - (extensionLength name - 1)))
    have hkept (extension : String) : withExtension p extension = setExtension kept extension := by
      simp only [withExtension, hname, kept]
    simp only [hkept, setExtension]
    cases hrest : fileName? kept.toList with
    | none =>
      right
      intro extension
      exact hrest
    | some rest =>
      left
      exact ⟨_, fun _ => rfl⟩

theorem append_getLast? (front back : String) (c : Char) (h : back.toList.getLast? = some c) :
    (front ++ back).toList.getLast? = some c := by
  rw [String.toList_append, List.getLast?_append, h]
  rfl

theorem join_getLast? (base other : Path) (c : Char) (h : other.toList.getLast? = some c) :
    (join base other).toList.getLast? = some c := by
  unfold join
  split_ifs
  · exact h
  · exact append_getLast? base other c h
  · exact append_getLast? (base ++ "/") other c h

theorem withExtension_getLast? (p : Path) (extension₁ extension₂ : String) (c : Char)
    (hname : fileName? (withExtension p extension₁).toList ≠ none)
    (hlast : extension₂.toList.getLast? = some c) :
    (withExtension p extension₂).toList.getLast? = some c := by
  rcases withExtension_cases p with ⟨stem, hstem⟩ | hnone
  · rw [hstem]
    exact append_getLast? _ _ c hlast
  · exact absurd (hnone extension₁) hname

def lastPart (p : Path) : List Char := (p.toList.reverse.takeWhile (· ≠ '/')).reverse

def EndsInStem (p : Path) : Prop := isIdle (lastPart p) = false ∧ extensionLength (lastPart p) = 0

instance (p : Path) : Decidable (EndsInStem p) := inferInstanceAs (Decidable (_ ∧ _))

theorem length_dropIdle_le (cs : List Char) : (dropIdle cs).length ≤ cs.length := by
  fun_induction dropIdle cs <;> simp_all <;> omega

theorem length_meaningful_le (cs : List Char) : (meaningful cs).length ≤ cs.length := by
  calc (meaningful cs).length
    _ = (dropIdle cs.reverse).length := List.length_reverse
    _ ≤ cs.reverse.length := length_dropIdle_le cs.reverse
    _ = cs.length := List.length_reverse

theorem meaningful_eq_self (p : Path) (h : isIdle (lastPart p) = false) :
    meaningful p.toList = p.toList := by
  rw [isIdle_eq_false_iff, lastPart] at h
  rw [meaningful, List.reverse_eq_iff]
  generalize p.toList.reverse = cs at h ⊢
  unfold dropIdle
  split <;> simp_all

theorem fileName?_eq_lastPart (p : Path) (name : List Char)
    (hmeaningful : meaningful p.toList = p.toList) (h : fileName? p.toList = some name) :
    name = lastPart p ∧ isIdle (lastPart p) = false := by
  unfold fileName? at h
  dsimp only at h
  rw [hmeaningful] at h
  split_ifs at h with hnone
  obtain rfl := Option.some.inj h
  rw [isIdle_eq_false_iff]
  simp only [not_or] at hnone
  exact ⟨rfl, hnone.1, hnone.2.1⟩

theorem EndsInStem.fileName? {p : Path} (h : EndsInStem p) :
    fileName? p.toList = some (lastPart p) := by
  have hstem := (isIdle_eq_false_iff _).mp h.1
  have hparent : lastPart p ≠ ['.', '.'] := by
    intro hdots
    have hnone := h.2
    rw [hdots] at hnone
    exact absurd hnone (by decide)
  unfold Path.fileName?
  dsimp only
  rw [meaningful_eq_self p h.1]
  exact if_neg (by simp only [not_or]; exact ⟨hstem.1, hstem.2, hparent⟩)

theorem EndsInStem.setExtension {p : Path} (h : EndsInStem p) (extension : String) :
    setExtension p extension = p ++ "." ++ extension := by
  unfold Path.setExtension
  rw [h.fileName?]
  dsimp only
  rw [meaningful_eq_self p h.1, h.2, Nat.sub_zero, List.take_length, String.ofList_toList]

theorem EndsInStem.withExtension {p : Path} (h : EndsInStem p) (extension : String) :
    withExtension p extension = p ++ "." ++ extension := by
  unfold Path.withExtension
  rw [h.fileName?]
  dsimp only
  rw [h.2, Nat.zero_sub, Nat.sub_zero, List.take_length, String.ofList_toList, h.setExtension]

theorem endsInStem_of_withExtension (p : Path) (extension : String)
    (h : withExtension p extension = p ++ "." ++ extension) : EndsInStem p := by
  -- both ways to set an extension keep no more of the path than there is of it
  have hlonger (q : Path) (hq : q.toList.length ≤ p.toList.length) : q ≠ p ++ "." ++ extension := by
    rintro rfl
    simp only [String.toList_append, List.length_append] at hq
    have hdot : ".".toList.length = 1 := rfl
    omega
  unfold withExtension at h
  cases hname : fileName? p.toList with
  | none =>
    rw [hname] at h
    exact absurd h (hlonger p (Nat.le_refl _))
  | some name =>
    rw [hname] at h
    dsimp only at h
    generalize hcut : p.toList.length - (extensionLength name - 1) = cut at h
    unfold setExtension at h
    rw [String.toList_ofList] at h
    cases hrest : fileName? (p.toList.take cut) with
    | none =>
      rw [hrest] at h
      refine absurd h (hlonger _ ?_)
      rw [String.toList_ofList]
      exact List.length_take_le' _ _
    | some rest =>
      rw [hrest] at h
      have hkept : (meaningful (p.toList.take cut)).take ((meaningful (p.toList.take cut)).length -
          extensionLength rest) = p.toList := by
        simpa [← String.toList_inj] using h
      have hlength := congrArg List.length hkept
      have hmeaningful := length_meaningful_le (p.toList.take cut)
      rw [List.length_take] at hlength hmeaningful
      have hwhole : p.toList.take cut = p.toList := List.take_of_length_le (by omega)
      rw [hwhole] at hkept hlength hmeaningful hrest
      rw [hname, Option.some.injEq] at hrest
      subst hrest
      rw [List.take_of_length_le (by omega)] at hkept
      obtain ⟨rfl, hidle⟩ := fileName?_eq_lastPart p name hkept hname
      refine ⟨hidle, ?_⟩
      rw [hkept] at hlength
      have hpos : p.toList ≠ [] := by
        intro hnil
        rw [hnil] at hname
        cases hname
      have hpos := List.length_pos_iff.mpr hpos
      omega

theorem withExtension_eq_append_iff (p : Path) (extension : String) :
    withExtension p extension = p ++ "." ++ extension ↔ EndsInStem p :=
  ⟨endsInStem_of_withExtension p extension, fun h => h.withExtension extension⟩

def front (base : Path) : Path :=
  if base.isEmpty then "" else if base.toList.getLast? = some '/' then base else base ++ "/"

theorem join_eq_front (base other : Path) (h : isAbsolute other = false) :
    join base other = front base ++ other := by
  unfold join front
  simp only [h, Bool.false_eq_true, false_or]
  split_ifs <;> simp

theorem front_cases (base : Path) : front base = "" ∨ ∃ f, front base = f ++ "/" := by
  unfold front
  split_ifs with hempty hslash
  · exact .inl rfl
  · obtain ⟨cs, hcs⟩ := List.getLast?_eq_some_iff.mp hslash
    refine .inr ⟨String.ofList cs, ?_⟩
    rw [← String.toList_inj, String.toList_append, String.toList_ofList, hcs]
    rfl
  · exact .inr ⟨base, rfl⟩

theorem lastPart_join (base other : Path) : lastPart (join base other) = lastPart other := by
  cases habsolute : isAbsolute other with
  | true =>
    rw [join, if_pos (.inl habsolute)]
  | false =>
    rw [join_eq_front base other habsolute]
    rcases front_cases base with hnone | ⟨f, hf⟩
    · rw [hnone, String.empty_append]
    · have hslash : (f ++ "/").toList.reverse = '/' :: f.toList.reverse := by
        rw [String.toList_append, List.reverse_append]
        rfl
      have hstop (cs : List Char) : (cs ++ '/' :: f.toList.reverse).takeWhile (· ≠ '/') =
          cs.takeWhile (· ≠ '/') := by
        induction cs with
        | nil => rfl
        | cons c cs ih => rw [List.cons_append, List.takeWhile_cons, List.takeWhile_cons, ih]
      rw [hf, lastPart, String.toList_append, List.reverse_append, hslash, hstop, ← lastPart]

theorem isAbsolute_append_extension (stem : Path) (extension : String) :
    isAbsolute (stem ++ "." ++ extension) = isAbsolute stem := by
  unfold isAbsolute
  rw [String.toList_append, String.toList_append, List.append_assoc, List.head?_append]
  cases hhead : stem.toList.head? with
  | none =>
    have hdot : (".".toList ++ extension.toList).head? = some '.' := rfl
    rw [hdot]
    rfl
  | some c => rfl

theorem join_append_extension (base stem : Path) (extension : String) :
    join base (stem ++ "." ++ extension) = join base stem ++ "." ++ extension := by
  have habsolute := isAbsolute_append_extension stem extension
  cases hstem : isAbsolute stem with
  | true =>
    rw [join, join, if_pos (.inl (habsolute.trans hstem)), if_pos (.inl hstem)]
  | false =>
    rw [join_eq_front base stem hstem, join_eq_front base _ (habsolute.trans hstem)]
    simp only [String.append_assoc]

theorem endsInStem_join_iff (base stem : Path) : EndsInStem (join base stem) ↔ EndsInStem stem := by
  rw [EndsInStem, lastPart_join, EndsInStem]

end BenchReport.Path

import Mathlib.Data.List.Nodup

namespace BenchReport

variable {α : Type} {pairs : List (String × α)} {name : String}

theorem mem_of_lookup {a : α} (h : pairs.lookup name = some a) : (name, a) ∈ pairs := by
  obtain ⟨before, after, rfl, -⟩ := List.lookup_eq_some_iff.mp h
  exact List.mem_append_right _ List.mem_cons_self

theorem lookup_of_unique {a : α} (hmem : (name, a) ∈ pairs) (h : ∀ b, (name, b) ∈ pairs → b = a) :
    pairs.lookup name = some a := by
  cases hlookup : pairs.lookup name with
  | none => simpa using List.lookup_eq_none_iff.mp hlookup _ hmem
  | some b => rw [h b (mem_of_lookup hlookup)]

theorem lookup_of_nodup (h : (pairs.map (·.1)).Nodup) (c : String × α) (hc : c ∈ pairs) :
    pairs.lookup c.1 = some c.2 := by
  apply lookup_of_unique hc
  intro b hb
  exact congrArg Prod.snd (List.inj_on_of_nodup_map h hb hc rfl)

theorem lookup_map_pair (names : List String) (f : String → α) (name : String) (h : name ∈ names) :
    (names.map fun n => (n, f n)).lookup name = some (f name) := by
  have hmem : (name, f name) ∈ names.map fun n => (n, f n) := List.mem_map_of_mem h
  apply lookup_of_unique hmem
  intro b hb
  obtain ⟨n, -, hpair⟩ := List.mem_map.mp hb
  obtain ⟨rfl, rfl⟩ := Prod.mk.inj hpair
  rfl

end BenchReport

import Mathlib.Data.List.Nodup
import Mathlib.Data.List.Perm.Basic
import SchemaDesk.Schema.Edit
/-!
Columns in a new order. Whatever the order lists, no column is made up and no identifier is lost; an order that lists
no identifier twice keeps each column once.
-/

namespace SchemaDesk.Schema

variable {cs : List Column} {order : List Id} {c : Column}

/-- The columns of the listed identifiers, as often as these are listed. -/
def listed (cs : List Column) (order : List Id) : List Column :=
  order.filterMap fun id => cs.reverse.find? fun c => c.id == id

/-- The columns that are left. -/
def unlisted (cs : List Column) (order : List Id) : List Column :=
  cs.filter fun c => !(listed cs order).any fun d => d.id == c.id

theorem reordered_perm (cs : List Column) (order : List Id) :
    (reordered cs order).Perm (listed cs order ++ unlisted cs order) :=
  List.filter_append_perm _ _

theorem mem_reordered : c ∈ reordered cs order ↔ c ∈ listed cs order ∨ c ∈ unlisted cs order := by
  rw [(reordered_perm cs order).mem_iff, List.mem_append]

theorem mem_of_mem_listed (h : c ∈ listed cs order) : c ∈ cs := by
  obtain ⟨id, -, hfound⟩ := List.mem_filterMap.mp h
  exact List.mem_reverse.mp (List.mem_of_find?_eq_some hfound)

theorem mem_unlisted : c ∈ unlisted cs order ↔ c ∈ cs ∧ ∀ d ∈ listed cs order, d.id ≠ c.id := by
  simp [unlisted]

theorem mem_of_mem_reordered (h : c ∈ reordered cs order) : c ∈ cs := by
  rcases mem_reordered.mp h with h | h
  · exact mem_of_mem_listed h
  · exact (mem_unlisted.mp h).1

theorem exists_mem_reordered (hc : c ∈ cs) (order : List Id) : ∃ d ∈ reordered cs order, d.id = c.id := by
  by_cases hlisted : ∃ d ∈ listed cs order, d.id = c.id
  · obtain ⟨d, hd, hid⟩ := hlisted
    exact ⟨d, mem_reordered.mpr (Or.inl hd), hid⟩
  · have hleft : c ∈ unlisted cs order := mem_unlisted.mpr ⟨hc, fun d hd hid => hlisted ⟨d, hd, hid⟩⟩
    exact ⟨c, mem_reordered.mpr (Or.inr hleft), rfl⟩

/-! ### How often a column is there -/

theorem find?_reverse_eq (hids : (cs.map (·.id)).Nodup) (hc : c ∈ cs) :
    cs.reverse.find? (fun d => d.id == c.id) = some c := by
  obtain ⟨d, hd⟩ : ∃ d, cs.reverse.find? (fun d => d.id == c.id) = some d := by
    rw [← Option.isSome_iff_exists, List.find?_isSome]
    exact ⟨c, List.mem_reverse.mpr hc, beq_self_eq_true c.id⟩
  have hmem : d ∈ cs := List.mem_reverse.mp (List.mem_of_find?_eq_some hd)
  have hid : d.id = c.id := by simpa using List.find?_some hd
  rw [hd, List.inj_on_of_nodup_map hids hmem hc hid]

theorem find?_reverse_eq_some_iff (hids : (cs.map (·.id)).Nodup) (hc : c ∈ cs) {id : Id} :
    cs.reverse.find? (fun d => d.id == id) = some c ↔ id = c.id := by
  constructor
  · intro h
    have hid : c.id = id := by simpa using List.find?_some h
    exact hid.symm
  · rintro rfl
    exact find?_reverse_eq hids hc

theorem count_listed (hids : (cs.map (·.id)).Nodup) (hc : c ∈ cs) : (listed cs order).count c = order.count c.id := by
  rw [listed, List.count_filterMap, List.count]
  refine List.countP_congr fun id _ => ?_
  rw [beq_iff_eq, beq_iff_eq]
  exact find?_reverse_eq_some_iff hids hc

theorem mem_listed_iff (hids : (cs.map (·.id)).Nodup) (hc : c ∈ cs) : c ∈ listed cs order ↔ c.id ∈ order := by
  rw [← List.count_pos_iff, count_listed hids hc, List.count_pos_iff]

theorem mem_unlisted_iff (hids : (cs.map (·.id)).Nodup) (hc : c ∈ cs) : c ∈ unlisted cs order ↔ c.id ∉ order := by
  rw [mem_unlisted, ← mem_listed_iff hids hc]
  constructor
  · exact fun h hlisted => h.2 c hlisted rfl
  · intro h
    refine ⟨hc, fun d hd hid => h ?_⟩
    rwa [← List.inj_on_of_nodup_map hids (mem_of_mem_listed hd) hc hid]

theorem nodup_unlisted (hids : (cs.map (·.id)).Nodup) : (unlisted cs order).Nodup :=
  (List.Nodup.of_map _ hids).filter _

/-- A column is there as often as it is listed, and once if it is not. -/
theorem count_reordered (hids : (cs.map (·.id)).Nodup) (hc : c ∈ cs) :
    (reordered cs order).count c = max 1 (order.count c.id) := by
  rw [(reordered_perm cs order).count_eq, List.count_append, count_listed hids hc]
  by_cases hmem : c.id ∈ order
  · have hleft : c ∉ unlisted cs order := fun h => (mem_unlisted_iff hids hc).mp h hmem
    have hcount : 0 < order.count c.id := List.count_pos_iff.mpr hmem
    rw [List.count_eq_zero.mpr hleft]
    omega
  · have hleft : c ∈ unlisted cs order := (mem_unlisted_iff hids hc).mpr hmem
    rw [List.count_eq_zero.mpr hmem, List.count_eq_one_of_mem (nodup_unlisted hids) hleft]
    rfl

theorem mem_reordered_of_mem (hids : (cs.map (·.id)).Nodup) (hc : c ∈ cs) : c ∈ reordered cs order := by
  rw [← List.count_pos_iff, count_reordered hids hc]
  omega

theorem reordered_perm_self_iff (hids : (cs.map (·.id)).Nodup) :
    (reordered cs order).Perm cs ↔ ∀ c ∈ cs, order.count c.id ≤ 1 := by
  have hcs : cs.Nodup := hids.of_map
  rw [List.perm_iff_count]
  constructor
  · intro h c hc
    have hcount : max 1 (order.count c.id) = 1 := by
      rw [← count_reordered hids hc, h c, List.count_eq_one_of_mem hcs hc]
    omega
  · intro h c
    by_cases hc : c ∈ cs
    · have hle := h c hc
      rw [count_reordered hids hc, List.count_eq_one_of_mem hcs hc]
      omega
    · rw [List.count_eq_zero.mpr hc, List.count_eq_zero.mpr fun hmem => hc (mem_of_mem_reordered hmem)]

theorem reordered_perm_self (hids : (cs.map (·.id)).Nodup) (horder : order.Nodup) : (reordered cs order).Perm cs :=
  (reordered_perm_self_iff hids).mpr fun c _ => List.nodup_iff_count_le_one.mp horder c.id

end SchemaDesk.Schema

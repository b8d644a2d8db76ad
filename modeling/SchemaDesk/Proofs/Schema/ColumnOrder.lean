import SchemaDesk.Proofs.Schema.InPlace
import SchemaDesk.Proofs.Schema.Reorder
/-!
The order of the columns after a reordering. An order is a list of identifiers from outside: it may name columns that
the table does not have, and it may name one twice. The editor looks each listed identifier up, so a column that is
listed twice is there twice, and no other order does harm.
-/

namespace SchemaDesk.Schema

variable {cs : List Column} {order : List Id} {x y : Column}

/-- The order of the columns but for the keys: listed columns as they are first listed, then the others as they
stood. -/
inductive StandsBefore (cs : List Column) (order : List Id) (x y : Column) : Prop
  | listed (h : order.idxOf x.id < order.idxOf y.id)
  | unlisted (hx : x.id ∉ order) (hy : y.id ∉ order) (h : cs.idxOf x < cs.idxOf y)

/-- Key columns come before all others, and otherwise the columns come in the order that is asked for. -/
inductive ComesBefore (cs : List Column) (order : List Id) (x y : Column) : Prop
  | key (hx : x.primaryKey = true) (hy : y.primaryKey = false)
  | order (hkey : x.primaryKey = y.primaryKey) (h : StandsBefore cs order x y)

/-- The same columns, none lost and none repeated, in the order that is asked for. -/
structure IsReordering (cs : List Column) (order : List Id) (ds : List Column) : Prop where
  perm : ds.Perm cs
  sorted : ds.Pairwise (ComesBefore cs order)

/-! ### In which order the columns are -/

/-- Of two elements with one source each, the one whose source is first is first itself. -/
theorem idxOf_filterMap_lt_iff {α β : Type} [DecidableEq α] [DecidableEq β] {f : α → Option β} {a b : α} {x y : β}
    (ha : ∀ i, f i = some x ↔ i = a) (hb : ∀ i, f i = some y ↔ i = b) (is : List α) :
    (is.filterMap f).idxOf x < (is.filterMap f).idxOf y ↔ is.idxOf a < is.idxOf b := by
  induction is with
  | nil => simp
  | cons i is ih =>
    by_cases hia : i = a
    · have hxy : x = y ↔ a = b := by rw [← hb a, (ha a).mpr rfl, Option.some.injEq]
      rw [List.filterMap_cons_some ((ha i).mpr hia), hia, List.idxOf_cons_self, List.idxOf_cons_self]
      by_cases hab : a = b
      · rw [hxy.mpr hab, hab, List.idxOf_cons_self, List.idxOf_cons_self]
      · rw [List.idxOf_cons_ne _ (mt hxy.mp hab), List.idxOf_cons_ne _ hab]
        exact iff_of_true (Nat.succ_pos _) (Nat.succ_pos _)
    · by_cases hib : i = b
      · rw [List.filterMap_cons_some ((hb i).mpr hib), hib, List.idxOf_cons_self, List.idxOf_cons_self]
        exact iff_of_false (Nat.not_lt_zero _) (Nat.not_lt_zero _)
      · rw [List.idxOf_cons_ne _ hia, List.idxOf_cons_ne _ hib, Nat.succ_lt_succ_iff, ← ih]
        cases hi : f i with
        | none => rw [List.filterMap_cons_none hi]
        | some z =>
          have hzx : z ≠ x := fun h => hia ((ha i).mp (h ▸ hi))
          have hzy : z ≠ y := fun h => hib ((hb i).mp (h ▸ hi))
          rw [List.filterMap_cons_some hi, List.idxOf_cons_ne _ hzx, List.idxOf_cons_ne _ hzy, Nat.succ_lt_succ_iff]

theorem idxOf_filter_lt_iff {p : Column → Bool} (hx : p x = true) (hy : p y = true) (cs : List Column) :
    (cs.filter p).idxOf x < (cs.filter p).idxOf y ↔ cs.idxOf x < cs.idxOf y := by
  have hkept : ∀ {d : Column}, p d = true → ∀ c, Option.guard p c = some d ↔ c = d := by
    intro d hd c
    rw [Option.guard_eq_some_iff]
    exact ⟨fun h => h.1, fun h => ⟨h, h ▸ hd⟩⟩
  rw [← List.filterMap_eq_filter]
  exact idxOf_filterMap_lt_iff (hkept hx) (hkept hy) cs

/-- Of two columns in a list of two parts, the first one is in the first part, or neither of them is. -/
theorem idxOf_append_lt_cases {as bs : List Column} (h : (as ++ bs).idxOf x < (as ++ bs).idxOf y) :
    (x ∈ as ∧ (y ∈ as → as.idxOf x < as.idxOf y)) ∨ (x ∉ as ∧ y ∉ as ∧ bs.idxOf x < bs.idxOf y) := by
  by_cases hx : x ∈ as
  · refine Or.inl ⟨hx, fun hy => ?_⟩
    rwa [List.idxOf_append_of_mem hx, List.idxOf_append_of_mem hy] at h
  · rw [List.idxOf_append_of_notMem hx] at h
    by_cases hy : y ∈ as
    · have hlt : as.idxOf y < as.length := List.idxOf_lt_length_of_mem hy
      rw [List.idxOf_append_of_mem hy] at h
      omega
    · rw [List.idxOf_append_of_notMem hy, Nat.add_lt_add_iff_left] at h
      exact Or.inr ⟨hx, hy, h⟩

theorem standsBefore_of_idxOf_lt (hids : (cs.map (·.id)).Nodup) (hx : x ∈ cs) (hy : y ∈ cs)
    (h : (listed cs order ++ unlisted cs order).idxOf x < (listed cs order ++ unlisted cs order).idxOf y) :
    StandsBefore cs order x y := by
  rcases idxOf_append_lt_cases h with ⟨hxlisted, hlt⟩ | ⟨hxlisted, hylisted, hlt⟩
  · refine .listed ?_
    have hxid : x.id ∈ order := (mem_listed_iff hids hx).mp hxlisted
    by_cases hyid : y.id ∈ order
    · exact (idxOf_filterMap_lt_iff (fun _ => find?_reverse_eq_some_iff hids hx)
        (fun _ => find?_reverse_eq_some_iff hids hy) order).mp (hlt ((mem_listed_iff hids hy).mpr hyid))
    · rw [List.idxOf_eq_length_iff.mpr hyid]
      exact List.idxOf_lt_length_of_mem hxid
  · have hxid : x.id ∉ order := mt (mem_listed_iff hids hx).mpr hxlisted
    have hyid : y.id ∉ order := mt (mem_listed_iff hids hy).mpr hylisted
    have hxleft := List.mem_filter.mp ((mem_unlisted_iff hids hx).mpr hxid)
    have hyleft := List.mem_filter.mp ((mem_unlisted_iff hids hy).mpr hyid)
    exact .unlisted hxid hyid ((idxOf_filter_lt_iff hxleft.2 hyleft.2 cs).mp hlt)

/-- Whatever the order lists, the columns first occur as they are asked for. -/
theorem comesBefore_of_idxOf_lt (hids : (cs.map (·.id)).Nodup) (hx : x ∈ cs) (hy : y ∈ cs)
    (h : (reordered cs order).idxOf x < (reordered cs order).idxOf y) : ComesBefore cs order x y := by
  have hstands : ∀ {p : Column → Bool}, p x = true → p y = true →
      ((listed cs order ++ unlisted cs order).filter p).idxOf x <
        ((listed cs order ++ unlisted cs order).filter p).idxOf y → StandsBefore cs order x y :=
    fun hpx hpy h => standsBefore_of_idxOf_lt hids hx hy ((idxOf_filter_lt_iff hpx hpy _).mp h)
  have hkey : ∀ {d : Column}, d ∈ cs → (d ∈ (listed cs order ++ unlisted cs order).filter (·.primaryKey) ↔
      d.primaryKey = true) := by
    intro d hd
    have hmem : d ∈ listed cs order ++ unlisted cs order :=
      (reordered_perm cs order).mem_iff.mp (mem_reordered_of_mem hids hd)
    exact List.mem_filter.trans (and_iff_right hmem)
  rcases idxOf_append_lt_cases h with ⟨hxkey, hlt⟩ | ⟨hxkey, hykey, hlt⟩
  · have hxkey : x.primaryKey = true := (hkey hx).mp hxkey
    cases hykey : y.primaryKey with
    | true => exact .order (hxkey.trans hykey.symm) (hstands hxkey hykey (hlt ((hkey hy).mpr hykey)))
    | false => exact .key hxkey hykey
  · have hxkey : x.primaryKey = false := Bool.eq_false_iff.mpr (mt (hkey hx).mpr hxkey)
    have hykey : y.primaryKey = false := Bool.eq_false_iff.mpr (mt (hkey hy).mpr hykey)
    exact .order (hxkey.trans hykey.symm) (hstands (by rw [hxkey]; rfl) (by rw [hykey]; rfl) hlt)

/-- Whatever the order lists, no key column stands behind another column. -/
theorem pairwise_key_reordered (cs : List Column) (order : List Id) :
    (reordered cs order).Pairwise fun x y => y.primaryKey = true → x.primaryKey = true := by
  refine List.pairwise_append.mpr ⟨?_, ?_, fun x hx y hy _ => (List.mem_filter.mp hx).2⟩
  · exact List.pairwise_of_forall_mem_list fun x hx y hy _ => (List.mem_filter.mp hx).2
  · refine List.pairwise_of_forall_mem_list fun x hx y hy hkey => ?_
    have hother : (!y.primaryKey) = true := (List.mem_filter.mp hy).2
    rw [hkey] at hother
    cases hother

theorem isReordering_reordered_iff (hids : (cs.map (·.id)).Nodup) :
    IsReordering cs order (reordered cs order) ↔ ∀ c ∈ cs, order.count c.id ≤ 1 := by
  refine ⟨fun h => (reordered_perm_self_iff hids).mp h.perm, fun h => ?_⟩
  have hperm : (reordered cs order).Perm cs := (reordered_perm_self_iff hids).mpr h
  have hnodup : (reordered cs order).Nodup := hperm.nodup_iff.mpr hids.of_map
  refine ⟨hperm, List.pairwise_iff_getElem.mpr fun i j hi hj hij => ?_⟩
  refine comesBefore_of_idxOf_lt hids (mem_of_mem_reordered (List.getElem_mem hi))
    (mem_of_mem_reordered (List.getElem_mem hj)) ?_
  rwa [hnodup.idxOf_getElem, hnodup.idxOf_getElem]

/-! ### The editor -/

/-- The editor changes the columns of the one table only. Each of them is there afterwards as often as it is listed,
or once if it is not listed. The keys are in front and the columns first occur as they are asked for, so this is a
reordering exactly if no column is listed twice. -/
theorem reorderColumns_isReordering_iff (s : Schema) {tableId : Id} {t : Table} (order : List Id)
    (ht : s.table? tableId = some t) (hids : (t.columns.map (·.id)).Nodup) :
    ∃ cs ts, Editor.reorderColumns tableId (some order) s = .ok () { s with tables := ts } ∧
      Exchanges Table.id tableId t { t with columns := cs } s.tables ts ∧
      (∀ c ∈ cs, c ∈ t.columns) ∧ (∀ c ∈ t.columns, cs.count c = max 1 (order.count c.id)) ∧
      (cs.Pairwise fun x y => y.primaryKey = true → x.primaryKey = true) ∧
      (∀ x ∈ cs, ∀ y ∈ cs, cs.idxOf x < cs.idxOf y → ComesBefore t.columns order x y) ∧
      (IsReordering t.columns order cs ↔ ∀ c ∈ t.columns, order.count c.id ≤ 1) := by
  have hrun : Editor.reorderColumns tableId (some order) s =
      .ok () (s.setTable { t with columns := reordered t.columns order }) := by
    rw [run_reorderColumns, reorderColumns, ht]
  exact ⟨reordered t.columns order, _, hrun, exchanges_setTable ht rfl, fun c => mem_of_mem_reordered,
    fun c hc => count_reordered hids hc, pairwise_key_reordered _ _,
    fun x hx y hy => comesBefore_of_idxOf_lt hids (mem_of_mem_reordered hx) (mem_of_mem_reordered hy),
    isReordering_reordered_iff hids⟩

def plainColumn : Column := { id := .named "a", name := "a" }

def keyColumn : Column := { id := .named "k", name := "k", primaryKey := true }

/-- A table with its key behind another column. -/
def pair : Table := { id := .named "t", name := "t", columns := [plainColumn, keyColumn] }

theorem reorderColumns_pair :
    Schema.table? { tables := [pair] } (.named "t") = some pair ∧ (pair.columns.map (·.id)).Nodup ∧
    ∃ cs ts, Editor.reorderColumns (.named "t") (some [.named "x", .named "a"]) { tables := [pair] } =
        .ok () { tables := ts } ∧
      Exchanges Table.id (.named "t") pair { pair with columns := cs } [pair] ts ∧
      IsReordering pair.columns [.named "x", .named "a"] cs := by
  have ht : Schema.table? { tables := [pair] } (.named "t") = some pair := by decide
  have hids : (pair.columns.map (·.id)).Nodup := by decide
  obtain ⟨cs, ts, hrun, hexchanges, -, -, -, -, horder⟩ :=
    reorderColumns_isReordering_iff { tables := [pair] } [.named "x", .named "a"] ht hids
  exact ⟨ht, hids, cs, ts, hrun, hexchanges, horder.mpr (by decide)⟩

theorem plainColumn_twice_in_pair :
    Editor.reorderColumns (.named "t") (some [.named "a", .named "a"]) { tables := [pair] } =
      .ok () { tables := [{ pair with columns := [keyColumn, plainColumn, plainColumn] }] } ∧
    ¬ IsReordering pair.columns [.named "a", .named "a"] [keyColumn, plainColumn, plainColumn] := by
  refine ⟨rfl, fun h => ?_⟩
  have hlength : [keyColumn, plainColumn, plainColumn].length = pair.columns.length := h.perm.length_eq
  exact absurd hlength (by decide)

end SchemaDesk.Schema

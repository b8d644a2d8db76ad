import SchemaDesk.Extraction
import SchemaDesk.Proofs.Reconciliation.Relations

/-!
The relations of foreign keys. Every foreign key with two ends is represented by one relation, which is
that of the first foreign key between the same columns.
-/

namespace SchemaDesk

namespace Relation

theorem Connects.trans {r s t : Relation} (hrs : r.Connects s) (hst : s.Connects t) : r.Connects t := by
  rcases hrs with ⟨h₁, h₂⟩ | ⟨h₁, h₂⟩ <;> rcases hst with ⟨h₃, h₄⟩ | ⟨h₃, h₄⟩
  · exact Or.inl ⟨h₁.trans h₃, h₂.trans h₄⟩
  · exact Or.inr ⟨h₁.trans h₃, h₂.trans h₄⟩
  · exact Or.inr ⟨h₁.trans h₄, h₂.trans h₃⟩
  · exact Or.inl ⟨h₁.trans h₄, h₂.trans h₃⟩

end Relation

namespace Extraction

/-- The relation is the one that the foreign key asks for, up to its identifier. -/
def IsRelationOf (sources : List TableSource) (key : TableSource × ForeignKey) (r : Relation) : Prop :=
  ∃ serial, relation? sources serial key.1 key.2 = some r

variable {sources : List TableSource} {key : TableSource × ForeignKey}

theorem relation?_eq_some_iff {serial : Nat} {s : TableSource} {k : ForeignKey} {r : Relation} :
    relation? sources serial s k = some r ↔ ∃ c target d, s.table.findColumn? k.column = some c ∧
      findSource? sources k.targetTable = some target ∧
      target.table.findColumn? k.targetColumn = some d ∧ r = {
        id := .fresh serial
        sourceTableId := s.table.id
        sourceColumnId := c.id
        targetTableId := target.table.id
        targetColumnId := d.id
        onDelete := actionName k.actions.onDelete
        onUpdate := actionName k.actions.onUpdate
        name := k.name } := by
  simp only [relation?, bind, Option.bind_eq_some_iff, pure, Option.some.injEq]
  exact ⟨fun ⟨c, hc, t, ht, d, hd, hr⟩ => ⟨c, t, d, hc, ht, hd, hr.symm⟩,
    fun ⟨c, t, d, hc, ht, hd, hr⟩ => ⟨c, hc, t, ht, d, hd, hr.symm⟩⟩

/-- All relations of one foreign key have the same ends. -/
theorem IsRelationOf.connects {r q : Relation} (hr : IsRelationOf sources key r)
    (hq : IsRelationOf sources key q) : r.Connects q := by
  obtain ⟨n, hr⟩ := hr
  obtain ⟨m, hq⟩ := hq
  obtain ⟨c, target, d, hc, htarget, hd, rfl⟩ := relation?_eq_some_iff.mp hr
  obtain ⟨c', target', d', hc', htarget', hd', rfl⟩ := relation?_eq_some_iff.mp hq
  obtain rfl := Option.some.inj (hc.symm.trans hc')
  obtain rfl := Option.some.inj (htarget.symm.trans htarget')
  obtain rfl := Option.some.inj (hd.symm.trans hd')
  exact Or.inl ⟨rfl, rfl⟩

theorem not_isRelationOf_of_none {serial : Nat} {q : Relation}
    (h : relation? sources serial key.1 key.2 = none) : ¬ IsRelationOf sources key q := by
  rintro ⟨n, hq⟩
  obtain ⟨c, target, d, hc, htarget, hd, -⟩ := relation?_eq_some_iff.mp hq
  cases h.symm.trans (relation?_eq_some_iff.mpr ⟨c, target, d, hc, htarget, hd, rfl⟩)

/-- Each foreign key with two ends is represented by one relation, that of the first foreign key which
connects the same columns. -/
structure Represented (sources : List TableSource) (keys : List (TableSource × ForeignKey))
    (rs : List Relation) : Prop where
  once : rs.Pairwise fun r s => ¬ r.Connects s
  each : ∀ key ∈ keys, ∀ q, IsRelationOf sources key q → ∃ r ∈ rs, r.Connects q
  first : ∀ r ∈ rs, ∃ before key after, keys = before ++ key :: after ∧ IsRelationOf sources key r ∧
    ∀ k ∈ before, ∀ q, IsRelationOf sources k q → ¬ q.Connects r

theorem Represented.nil : Represented sources [] [] := ⟨.nil, by simp, by simp⟩

/-- A foreign key that brings no relation of its own. -/
theorem Represented.skip {keys : List (TableSource × ForeignKey)} {rs : List Relation}
    (h : Represented sources keys rs)
    (hkey : ∀ q, IsRelationOf sources key q → ∃ r ∈ rs, r.Connects q) :
    Represented sources (keys ++ [key]) rs := by
  refine ⟨h.once, fun k hk => ?_, fun r hr => ?_⟩
  · rcases List.mem_append.mp hk with hk | hk
    · exact h.each k hk
    · obtain rfl := List.mem_singleton.mp hk
      exact hkey
  · obtain ⟨before, k, after, rfl, hk, hbefore⟩ := h.first r hr
    exact ⟨before, k, after ++ [key], by simp, hk, hbefore⟩

/-- A foreign key between columns that were not connected brings its relation. -/
theorem Represented.concat {keys : List (TableSource × ForeignKey)} {rs : List Relation}
    (h : Represented sources keys rs) {r : Relation} (hr : IsRelationOf sources key r)
    (hnew : ¬ r.existsIn rs = true) : Represented sources (keys ++ [key]) (rs ++ [r]) := by
  refine ⟨Reconciliation.pairwise_concat_of_not_existsIn h.once hnew, fun k hk q hq => ?_, fun s hs => ?_⟩
  · rcases List.mem_append.mp hk with hk | hk
    · obtain ⟨s, hs, hconnects⟩ := h.each k hk q hq
      exact ⟨s, by simp [hs], hconnects⟩
    · obtain rfl := List.mem_singleton.mp hk
      exact ⟨r, by simp, hr.connects hq⟩
  · rcases List.mem_append.mp hs with hs | hs
    · obtain ⟨before, k, after, rfl, hk, hbefore⟩ := h.first s hs
      exact ⟨before, k, after ++ [key], by simp, hk, hbefore⟩
    · obtain rfl := List.mem_singleton.mp hs
      refine ⟨keys, key, [], rfl, hr, fun k hk q hq hconnects => ?_⟩
      obtain ⟨t, ht, htq⟩ := h.each k hk q hq
      exact hnew (Relation.existsIn_iff.mpr ⟨t, ht, htq.trans hconnects⟩)

theorem relations_represented (keys : List (TableSource × ForeignKey)) :
    ∀ (serial : Nat) (done : List (TableSource × ForeignKey)) (found : List Relation),
      Represented sources done found →
      Represented sources (done ++ keys) (relations sources serial found keys).1 := by
  induction keys with
  | nil => exact fun serial done found h => by simpa [relations] using h
  | cons key keys ih =>
    intro serial done found h
    obtain ⟨s, k⟩ := key
    rw [relations, List.append_cons]
    cases hrelation : relation? sources serial s k with
    | none =>
      have hnone (q : Relation) : ¬ IsRelationOf sources (s, k) q := not_isRelationOf_of_none hrelation
      exact ih _ _ _ (h.skip fun q hq => (hnone q hq).elim)
    | some r =>
      have hr : IsRelationOf sources (s, k) r := ⟨serial, hrelation⟩
      refine ih _ _ _ ?_
      unfold Relation.addTo
      split
      · next hexists =>
        obtain ⟨t, ht, hconnects⟩ := Relation.existsIn_iff.mp hexists
        exact h.skip fun q hq => ⟨t, ht, hconnects.trans (hr.connects hq)⟩
      · next hnew => exact h.concat hr hnew

end Extraction

end SchemaDesk

import Mathlib.Data.List.Nodup
import SchemaDesk.Proofs.Extraction.Source

/-!
The tables of all statements. Each name counts once, whatever its letter case, and the identifiers of
the tables and of their columns are the next ones without a gap.
-/

namespace SchemaDesk.Extraction

/-- What holds of every source that is extracted. -/
structure IsSource (s : TableSource) : Prop where
  name_ne_empty : s.table.name ≠ ""
  columns_ne_nil : s.table.columns ≠ []
  column_names : ∀ c ∈ s.table.columns, c.name ≠ ""
  keyMarked : ∀ c ∈ s.table.columns, KeyMarked c

/-- The outcome of the search for tables in some more statements. -/
structure SourcesFound (serial : Nat) (found found' : List TableSource) (next : Nat) : Prop where
  isSource : ∀ s ∈ found', s ∈ found ∨ IsSource s
  ids : ∃ n, next = serial + n ∧
    found'.flatMap sourceIds = found.flatMap sourceIds ++ (List.range' serial n).map Id.fresh
  names : (found.map fun s => Text.lower s.table.name).Nodup →
    (found'.map fun s => Text.lower s.table.name).Nodup

theorem SourcesFound.refl (serial : Nat) (found : List TableSource) :
    SourcesFound serial found found serial :=
  ⟨fun _ hs => Or.inl hs, ⟨0, rfl, by simp⟩, id⟩

theorem findSource?_eq_none_iff {found : List TableSource} {name : String} :
    findSource? found name = none ↔ ∀ s ∈ found, Text.lower s.table.name ≠ Text.lower name := by
  simp [findSource?, Text.sameName]

/-- A new name with a table of its own goes to the found ones. -/
theorem SourcesFound.cons {serial middle next : Nat} {found found' : List TableSource} {name : String}
    {s : TableSource} (hname : name ≠ "") (hnew : findSource? found name = none)
    (hs : MadeFrom serial name s middle) (h : SourcesFound middle (found ++ [s]) found' next) :
    SourcesFound serial found found' next := by
  constructor
  case isSource =>
    intro t ht
    rcases h.isSource t ht with ht | ht
    · rcases List.mem_append.mp ht with ht | ht
      · exact Or.inl ht
      · obtain rfl := List.mem_singleton.mp ht
        exact Or.inr ⟨hs.name_eq ▸ hname, hs.columns_ne_nil, hs.column_names, hs.keyMarked⟩
    · exact Or.inr ht
  case ids =>
    obtain ⟨n, rfl, hn⟩ := hs.ids_eq
    obtain ⟨m, rfl, hm⟩ := h.ids
    refine ⟨n + m, Nat.add_assoc _ _ _, ?_⟩
    rw [hm, List.flatMap_append, List.flatMap_singleton, hn, List.append_assoc, ← List.map_append,
      List.range'_append_1]
  case names =>
    intro hfound
    refine h.names ?_
    rw [List.map_append, List.nodup_append]
    refine ⟨hfound, by simp, fun a ha b hb => ?_⟩
    obtain ⟨t, ht, rfl⟩ := List.mem_map.mp ha
    obtain rfl : b = Text.lower s.table.name := by simpa using hb
    rw [hs.name_eq]
    exact findSource?_eq_none_iff.mp hnew t ht

theorem name_ne_empty_of_tableName? {v : Value} {name : String} (h : tableName? v = some name) :
    name ≠ "" :=
  Value.ne_empty_of_nameText? _ h

theorem sourcesFrom_found {serial next : Nat} {found found' : List TableSource} {vs : List Value}
    (h : sourcesFrom serial found vs = .ok (found', next)) : SourcesFound serial found found' next := by
  induction vs generalizing serial found with
  | nil =>
    obtain ⟨rfl, rfl⟩ := Prod.mk.inj (Except.ok.inj h)
    exact .refl _ _
  | cons v vs ih =>
    rw [sourcesFrom] at h
    split at h
    · exact ih h
    · next name hname =>
      split at h
      · exact ih h
      · next hnew =>
        split at h
        · cases h
        · exact ih h
        · next s middle hs =>
          have hname : tableName? v = some name := by
            split at hname
            · exact hname
            · cases hname
          exact .cons (name_ne_empty_of_tableName? hname) (by simpa using hnew)
            (madeFrom_of_source? hs) (ih h)

theorem nodup_sourceIds {serial next : Nat} {sources : List TableSource} {vs : List Value}
    (h : sourcesFrom serial [] vs = .ok (sources, next)) : (sources.flatMap sourceIds).Nodup := by
  obtain ⟨n, -, hids⟩ := (sourcesFrom_found h).ids
  rw [hids]
  exact List.Nodup.map (fun _ _ => Id.fresh.inj) List.nodup_range'

end SchemaDesk.Extraction

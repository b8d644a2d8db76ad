import Mathlib.Data.List.Induction
import Mathlib.Data.List.Nodup
import Mathlib.Data.Nat.Find
import Mathlib.Tactic.Common
import SchemaDesk.Reconciliation

/-!
Which old table a new table takes over. The search is described without its order of steps: by the
names of the tables, and by the places of the tables in the script before the edit.
-/

namespace SchemaDesk

/-- The first item of a name, whatever the letter case. -/
def FirstNamed {α : Type} (name : α → String) (xs : List α) (s : String) (x : α) : Prop :=
  ∃ before after, xs = before ++ x :: after ∧ Text.lower (name x) = Text.lower s ∧
    ∀ y ∈ before, Text.lower (name y) ≠ Text.lower s

theorem find?_sameName_eq_some_iff {α : Type} {name : α → String} {xs : List α} {s : String} {x : α} :
    xs.find? (fun y => Text.sameName (name y) s) = some x ↔ FirstNamed name xs s x := by
  simp only [List.find?_eq_some_iff_append, Text.sameName, beq_iff_eq, FirstNamed]
  constructor
  · rintro ⟨hx, before, after, hxs, hbefore⟩
    exact ⟨before, after, hxs, hx, fun y hy => by simpa using hbefore y hy⟩
  · rintro ⟨before, after, hxs, hx, hbefore⟩
    exact ⟨hx, before, after, hxs, fun y hy => by simpa using hbefore y hy⟩

theorem FirstNamed.mem {α : Type} {name : α → String} {xs : List α} {s : String} {x : α}
    (h : FirstNamed name xs s x) : x ∈ xs := by
  obtain ⟨before, after, rfl, -, -⟩ := h
  simp

theorem FirstNamed.lower_eq {α : Type} {name : α → String} {xs : List α} {s : String} {x : α}
    (h : FirstNamed name xs s x) : Text.lower (name x) = Text.lower s := by
  obtain ⟨before, after, -, hx, -⟩ := h
  exact hx

theorem FirstNamed.of_lower_eq {α : Type} {name : α → String} {xs : List α} {s t : String} {x : α}
    (h : FirstNamed name xs s x) (hst : Text.lower s = Text.lower t) : FirstNamed name xs t x := by
  obtain ⟨before, after, hxs, hx, hbefore⟩ := h
  exact ⟨before, after, hxs, hx.trans hst, by simpa only [hst] using hbefore⟩

theorem FirstNamed.unique {α : Type} {name : α → String} {xs : List α} {s : String} {x y : α}
    (hx : FirstNamed name xs s x) (hy : FirstNamed name xs s y) : x = y := by
  rw [← find?_sameName_eq_some_iff] at hx hy
  exact Option.some.inj (hx.symm.trans hy)

namespace Reconciliation

/-- The old table has the name of the new table at place `i`, no table before it has, and no earlier
new table has that name. -/
def TakesByName (old new : List Table) (i : Nat) (o : Table) : Prop :=
  ∃ n, new[i]? = some n ∧ FirstNamed Table.name old n.name o ∧
    ∀ j m, j < i → new[j]? = some m → Text.lower m.name ≠ Text.lower n.name

/-- The new table at place `i` got no table by its name, the old table is the first one of the name at
that place of the script before the edit, no new table has its name, and no earlier place took it in
this way. -/
def TakesByPlace (old : List Table) (names : List String) (new : List Table) (i : Nat) (o : Table) :
    Prop :=
  i < new.length ∧ (∀ p, ¬ TakesByName old new i p) ∧
    (∃ name, names[i]? = some name ∧ FirstNamed Table.name old name o) ∧
    (∀ n ∈ new, Text.lower n.name ≠ Text.lower o.name) ∧
    ∀ j, j < i → ¬ TakesByPlace old names new j o
termination_by i

/-- The old table that the new table at place `i` takes over. -/
def Takes (old : List Table) (names : List String) (new : List Table) (i : Nat) (o : Table) : Prop :=
  TakesByName old new i o ∨ TakesByPlace old names new i o

theorem takesByPlace_iff {old : List Table} {names : List String} {new : List Table} {i : Nat}
    {o : Table} :
    TakesByPlace old names new i o ↔
      i < new.length ∧ (∀ p, ¬ TakesByName old new i p) ∧
        (∃ name, names[i]? = some name ∧ FirstNamed Table.name old name o) ∧
        (∀ n ∈ new, Text.lower n.name ≠ Text.lower o.name) ∧
        ∀ j, j < i → ¬ TakesByPlace old names new j o := by
  rw [TakesByPlace]

theorem TakesByName.mem {old new : List Table} {i : Nat} {o : Table} (h : TakesByName old new i o) :
    o ∈ old := by
  obtain ⟨n, -, hfirst, -⟩ := h
  exact hfirst.mem

theorem TakesByName.lt_length {old new : List Table} {i : Nat} {o : Table}
    (h : TakesByName old new i o) : i < new.length := by
  obtain ⟨n, hn, -, -⟩ := h
  exact (List.getElem?_eq_some_iff.mp hn).1

theorem TakesByPlace.mem {old : List Table} {names : List String} {new : List Table} {i : Nat}
    {o : Table} (h : TakesByPlace old names new i o) : o ∈ old := by
  obtain ⟨-, -, ⟨name, -, hfirst⟩, -⟩ := takesByPlace_iff.mp h
  exact hfirst.mem

theorem Takes.mem {old : List Table} {names : List String} {new : List Table} {i : Nat} {o : Table}
    (h : Takes old names new i o) : o ∈ old :=
  h.elim TakesByName.mem TakesByPlace.mem

theorem TakesByName.unique {old new : List Table} {i : Nat} {o p : Table}
    (ho : TakesByName old new i o) (hp : TakesByName old new i p) : o = p := by
  obtain ⟨n, hn, hfirst, -⟩ := ho
  obtain ⟨m, hm, hfirst', -⟩ := hp
  obtain rfl : n = m := Option.some.inj (hn.symm.trans hm)
  exact hfirst.unique hfirst'

theorem Takes.unique {old : List Table} {names : List String} {new : List Table} {i : Nat}
    {o p : Table} (ho : Takes old names new i o) (hp : Takes old names new i p) : o = p := by
  rcases ho with ho | ho <;> rcases hp with hp | hp
  · exact ho.unique hp
  · exact absurd ho ((takesByPlace_iff.mp hp).2.1 o)
  · exact absurd hp ((takesByPlace_iff.mp ho).2.1 p)
  · obtain ⟨-, -, ⟨name, hname, hfirst⟩, -⟩ := takesByPlace_iff.mp ho
    obtain ⟨-, -, ⟨name', hname', hfirst'⟩, -⟩ := takesByPlace_iff.mp hp
    obtain rfl : name = name' := Option.some.inj (hname.symm.trans hname')
    exact hfirst.unique hfirst'

/-- An old table is taken by its name exactly if a new table has that name. -/
theorem exists_takesByName_iff {old new : List Table} {s : String} {o : Table}
    (hfirst : FirstNamed Table.name old s o) :
    (∃ i, TakesByName old new i o) ↔ ∃ n ∈ new, Text.lower n.name = Text.lower s := by
  constructor
  · rintro ⟨i, n, hn, ho, -⟩
    exact ⟨n, List.mem_of_getElem? hn, ho.lower_eq.symm.trans hfirst.lower_eq⟩
  · rintro ⟨n, hn, hname⟩
    obtain ⟨k, hk⟩ := List.mem_iff_getElem?.mp hn
    have hex : ∃ (i : Nat) (m : Table), new[i]? = some m ∧ Text.lower m.name = Text.lower s := ⟨k, n, hk, hname⟩
    classical
    -- The first new table of the name is the one that takes the old table.
    obtain ⟨m, hm, hms⟩ := Nat.find_spec hex
    refine ⟨Nat.find hex, m, hm, hfirst.of_lower_eq hms.symm, ?_⟩
    intro j p hj hp hlower
    exact Nat.find_min hex hj ⟨p, hp, hlower.trans hms⟩

/-- What the search by names has found for the first new tables: the old tables that are taken by name,
and the identifiers of these. -/
structure NamesFound (old new : List Table) (m : Matching) : Prop where
  length_found : m.found.length = new.length
  found_iff : ∀ i o, m.found[i]? = some (some o) ↔ TakesByName old new i o
  claimed_iff : ∀ o ∈ old, o.id ∈ m.claimed ↔ ∃ i, TakesByName old new i o

theorem eq_of_mem_of_id_eq {tables : List Table} (hids : (tables.map (·.id)).Nodup) {s t : Table}
    (hs : s ∈ tables) (ht : t ∈ tables) (hid : s.id = t.id) : s = t :=
  List.inj_on_of_nodup_map hids hs ht hid

theorem getElem?_concat_eq_some_iff {α : Type} {xs : List α} {x y : α} {i : Nat} :
    (xs ++ [x])[i]? = some y ↔ xs[i]? = some y ∨ (i = xs.length ∧ x = y) := by
  rcases Nat.lt_trichotomy i xs.length with hi | rfl | hi
  · rw [List.getElem?_append_left hi]
    simp [Nat.ne_of_lt hi]
  · simp
  · rw [List.getElem?_eq_none (by simp; omega), List.getElem?_eq_none (by omega)]
    simp [Nat.ne_of_gt hi]

/-- A new table at the end changes nothing for the ones before it. -/
theorem takesByName_append_iff {old new : List Table} {t : Table} {i : Nat} {o : Table} :
    TakesByName old (new ++ [t]) i o ↔
      TakesByName old new i o ∨
        (i = new.length ∧ FirstNamed Table.name old t.name o ∧
          ∀ n ∈ new, Text.lower n.name ≠ Text.lower t.name) := by
  constructor
  · rintro ⟨n, hn, hfirst, hearlier⟩
    have hbefore : ∀ j m, j < i → new[j]? = some m → Text.lower m.name ≠ Text.lower n.name :=
      fun j m hj hm => hearlier j m hj (getElem?_concat_eq_some_iff.mpr (Or.inl hm))
    rcases getElem?_concat_eq_some_iff.mp hn with hn | ⟨rfl, rfl⟩
    · exact Or.inl ⟨n, hn, hfirst, hbefore⟩
    · refine Or.inr ⟨rfl, hfirst, fun m hm => ?_⟩
      obtain ⟨j, hj⟩ := List.mem_iff_getElem?.mp hm
      exact hbefore j m (List.getElem?_eq_some_iff.mp hj).1 hj
  · rintro (h | ⟨rfl, hfirst, hearlier⟩)
    · have hi := h.lt_length
      obtain ⟨n, hn, hfirst, hearlier⟩ := h
      refine ⟨n, getElem?_concat_eq_some_iff.mpr (Or.inl hn), hfirst, fun j m hj hm => ?_⟩
      rcases getElem?_concat_eq_some_iff.mp hm with hm | ⟨rfl, -⟩
      · exact hearlier j m hj hm
      · omega
    · refine ⟨t, by simp, hfirst, fun j m hj hm => ?_⟩
      rcases getElem?_concat_eq_some_iff.mp hm with hm | ⟨rfl, -⟩
      · exact hearlier m (List.mem_of_getElem? hm)
      · omega

/-- The search by names goes on with one more new table. -/
theorem NamesFound.add {old new : List Table} {m : Matching} (hids : (old.map (·.id)).Nodup)
    (h : NamesFound old new m) (t : Table) :
    NamesFound old (new ++ [t]) (m.add (findByName? old t.name)) := by
  have hlen := h.length_found
  -- A new table that gets nothing leaves all as it was.
  have hskip (hiff : ∀ i o, TakesByName old (new ++ [t]) i o ↔ TakesByName old new i o) :
      NamesFound old (new ++ [t]) { m with found := m.found ++ [none] } :=
    ⟨by simp [hlen], fun i o => by simp [getElem?_concat_eq_some_iff, hiff, h.found_iff],
      fun o ho => by simpa only [hiff] using h.claimed_iff o ho⟩
  cases hcandidate : findByName? old t.name with
  | none =>
    refine hskip fun i o => ?_
    have hnone : ¬ FirstNamed Table.name old t.name o := by
      rw [← find?_sameName_eq_some_iff]
      intro ho
      cases hcandidate.symm.trans ho
    simp [takesByName_append_iff, hnone]
  | some p =>
    have hfirst : FirstNamed Table.name old t.name p := find?_sameName_eq_some_iff.mp hcandidate
    have hclaimed := (h.claimed_iff p hfirst.mem).trans (exists_takesByName_iff hfirst)
    by_cases hp : p.id ∈ m.claimed
    · obtain ⟨n, hn, hname⟩ := hclaimed.mp hp
      have hadd : m.add (some p) = { m with found := m.found ++ [none] } := by
        simp [Matching.add, hp]
      rw [hadd]
      refine hskip fun i o => ?_
      rw [takesByName_append_iff]
      exact ⟨fun ho => ho.elim id fun ho => absurd hname (ho.2.2 n hn), Or.inl⟩
    · have hfree : ∀ n ∈ new, Text.lower n.name ≠ Text.lower t.name := by
        intro n hn hname
        exact hp (hclaimed.mpr ⟨n, hn, hname⟩)
      have hiff : ∀ i o, TakesByName old (new ++ [t]) i o ↔
          TakesByName old new i o ∨ (i = new.length ∧ p = o) := by
        intro i o
        rw [takesByName_append_iff]
        refine or_congr_right (and_congr_right fun _ => ?_)
        exact ⟨fun ho => hfirst.unique ho.1, fun ho => ⟨ho ▸ hfirst, hfree⟩⟩
      have hadd : m.add (some p) = ⟨m.found ++ [some p], m.claimed ++ [p.id]⟩ := by
        simp [Matching.add, hp]
      rw [hadd]
      refine ⟨by simp [hlen], fun i o => ?_, fun o ho => ?_⟩
      · simp only [getElem?_concat_eq_some_iff, hiff, h.found_iff, hlen, Option.some.injEq]
      · simp only [List.mem_append, List.mem_singleton, hiff, h.claimed_iff o ho]
        constructor
        · rintro (⟨i, hi⟩ | hid)
          · exact ⟨i, Or.inl hi⟩
          · exact ⟨new.length, Or.inr ⟨rfl, eq_of_mem_of_id_eq hids hfirst.mem ho hid.symm⟩⟩
        · rintro ⟨i, hi | ⟨-, rfl⟩⟩
          · exact Or.inl ⟨i, hi⟩
          · exact Or.inr rfl

theorem matchNames_spec {old : List Table} (hids : (old.map (·.id)).Nodup) (new : List Table) :
    NamesFound old new (matchNames old new) := by
  induction new using List.reverseRecOn with
  | nil =>
    have hnone : ∀ i o, ¬ TakesByName old [] i o := by
      rintro i o ⟨n, hn, -⟩
      simp at hn
    exact ⟨rfl, by simp [matchNames, hnone], by simp [matchNames, hnone]⟩
  | append_singleton new t ih =>
    have hstep := ih.add hids t
    simpa [matchNames] using hstep

/-- What the search by places has found for the new tables before a place: `done` holds their old
tables, and `claimed` the identifiers that are gone. -/
structure PlacesFound (old : List Table) (names : List String) (new : List Table)
    (done : List (Option Table)) (claimed : List Id) : Prop where
  length_le : done.length ≤ new.length
  found_iff : ∀ i, i < done.length → ∀ o, done[i]? = some (some o) ↔ Takes old names new i o
  claimed_iff : ∀ o ∈ old, o.id ∈ claimed ↔
    (∃ i, TakesByName old new i o) ∨ ∃ i, i < done.length ∧ TakesByPlace old names new i o

/-- A place whose table is decided already goes to the found ones. -/
theorem PlacesFound.skip {old : List Table} {names : List String} {new : List Table}
    {done : List (Option Table)} {claimed : List Id} (h : PlacesFound old names new done claimed)
    {found : Option Table} (hlt : done.length < new.length)
    (hfound : ∀ o, found = some o ↔ Takes old names new done.length o)
    (hplace : ∀ o, ¬ TakesByPlace old names new done.length o) :
    PlacesFound old names new (done ++ [found]) claimed := by
  refine ⟨by simp; omega, fun i hi o => ?_, fun o ho => ?_⟩
  · rw [getElem?_concat_eq_some_iff]
    rcases Nat.lt_or_ge i done.length with hlow | hhigh
    · simp [h.found_iff i hlow o, Nat.ne_of_lt hlow]
    · obtain rfl : i = done.length := by simp at hi; omega
      simp [hfound]
  · rw [h.claimed_iff o ho]
    refine or_congr_right ⟨?_, ?_⟩
    · rintro ⟨i, hi, hplaced⟩
      exact ⟨i, by simp; omega, hplaced⟩
    · rintro ⟨i, hi, hplaced⟩
      rcases Nat.lt_or_ge i done.length with hlow | hhigh
      · exact ⟨i, hlow, hplaced⟩
      · obtain rfl : i = done.length := by simp at hi; omega
        exact absurd hplaced (hplace o)

/-- A place at which an old table is found takes it and claims its identifier. -/
theorem PlacesFound.claim {old : List Table} {names : List String} {new : List Table}
    {done : List (Option Table)} {claimed : List Id} (hids : (old.map (·.id)).Nodup)
    (h : PlacesFound old names new done claimed) {p : Table} (hlt : done.length < new.length)
    (hp : TakesByPlace old names new done.length p) :
    PlacesFound old names new (done ++ [some p]) (claimed ++ [p.id]) := by
  have htakes : Takes old names new done.length p := Or.inr hp
  refine ⟨by simp; omega, fun i hi o => ?_, fun o ho => ?_⟩
  · rw [getElem?_concat_eq_some_iff]
    rcases Nat.lt_or_ge i done.length with hlow | hhigh
    · simp [h.found_iff i hlow o, Nat.ne_of_lt hlow]
    · obtain rfl : i = done.length := by simp at hi; omega
      simp only [List.getElem?_eq_none (Nat.le_refl _), reduceCtorEq, false_or, true_and,
        Option.some.injEq]
      exact ⟨fun heq => heq ▸ htakes, fun ho => htakes.unique ho⟩
  · rw [List.mem_append, List.mem_singleton, h.claimed_iff o ho, or_assoc]
    refine or_congr_right ⟨?_, ?_⟩
    · rintro (⟨i, hi, hplaced⟩ | hid)
      · exact ⟨i, by simp; omega, hplaced⟩
      · exact ⟨done.length, by simp, eq_of_mem_of_id_eq hids hp.mem ho hid.symm ▸ hp⟩
    · rintro ⟨i, hi, hplaced⟩
      rcases Nat.lt_or_ge i done.length with hlow | hhigh
      · exact Or.inl ⟨i, hlow, hplaced⟩
      · obtain rfl : i = done.length := by simp at hi; omega
        have htakes' : Takes old names new done.length o := Or.inr hplaced
        exact Or.inr (htakes'.unique htakes ▸ rfl)

/-- The table that is looked up for a place is the one that the place takes, unless its identifier is
gone. -/
theorem takesByPlace_iff_renamedFrom? {old : List Table} {names : List String} {new : List Table}
    {done : List (Option Table)} {claimed : List Id} (h : PlacesFound old names new done claimed)
    {n : Table} (hn : new[done.length]? = some n)
    (hnone : ∀ p, ¬ TakesByName old new done.length p) (o : Table) :
    TakesByPlace old names new done.length o ↔
      renamedFrom? old names[done.length]? n = some o ∧ o.id ∉ claimed := by
  have hlt := (List.getElem?_eq_some_iff.mp hn).1
  have hlookup : renamedFrom? old names[done.length]? n = some o ↔
      ∃ name, names[done.length]? = some name ∧ FirstNamed Table.name old name o ∧
        Text.lower o.name ≠ Text.lower n.name := by
    cases hname : names[done.length]? with
    | none => simp [renamedFrom?]
    | some name =>
      have hfirst : findByName? old name = some o ↔ FirstNamed Table.name old name o :=
        find?_sameName_eq_some_iff
      simp only [renamedFrom?, findByName?, Option.some.injEq, exists_eq_left']
      by_cases hsame : Text.lower name = Text.lower n.name
      · simp only [Text.sameName, hsame, BEq.rfl, if_true, reduceCtorEq, false_iff, not_and]
        intro ho hne
        exact hne (ho.lower_eq.trans hsame)
      · simp only [Text.sameName, beq_iff_eq, hsame, if_false]
        refine hfirst.trans ⟨fun ho => ⟨ho, fun heq => hsame (ho.lower_eq.symm.trans heq)⟩, And.left⟩
  rw [takesByPlace_iff, hlookup]
  constructor
  · rintro ⟨-, -, ⟨name, hname, hfirst⟩, hfree, hearlier⟩
    refine ⟨⟨name, hname, hfirst, (hfree n (List.mem_of_getElem? hn)).symm⟩, fun hclaimed => ?_⟩
    rcases (h.claimed_iff o hfirst.mem).mp hclaimed with htaken | ⟨i, hi, hplaced⟩
    · obtain ⟨m, hm, hlower⟩ := (exists_takesByName_iff hfirst).mp htaken
      exact hfree m hm (hlower.trans hfirst.lower_eq.symm)
    · exact hearlier i hi hplaced
  · rintro ⟨⟨name, hname, hfirst, -⟩, hclaimed⟩
    rw [h.claimed_iff o hfirst.mem, not_or] at hclaimed
    refine ⟨hlt, hnone, ⟨name, hname, hfirst⟩, fun m hm hlower => ?_, fun j hj hplaced => ?_⟩
    · exact hclaimed.1 ((exists_takesByName_iff hfirst).mpr ⟨m, hm, hlower.trans hfirst.lower_eq⟩)
    · exact hclaimed.2 ⟨j, hj, hplaced⟩

/-- The search by places, continued from any place, finds for all new tables what they take. -/
theorem matchPositions_spec {old : List Table} {names : List String} {new : List Table}
    {m : Matching} (hids : (old.map (·.id)).Nodup) (hm : NamesFound old new m)
    (rest : List (Table × Option Table)) :
    ∀ (done : List (Option Table)) (claimed : List Id), PlacesFound old names new done claimed →
      rest = (new.zip m.found).drop done.length →
      ∃ claimed', PlacesFound old names new
        (matchPositions old claimed done ((names.map some).drop done.length) rest) claimed' ∧
        (matchPositions old claimed done ((names.map some).drop done.length) rest).length =
          new.length := by
  have hlen := hm.length_found
  induction rest with
  | nil =>
    intro done claimed h hrest
    have hge := List.drop_eq_nil_iff.mp hrest.symm
    have hle := h.length_le
    refine ⟨claimed, by simpa [matchPositions] using h, ?_⟩
    simp only [matchPositions]
    simp [hlen] at hge
    omega
  | cons p rest ih =>
    intro done claimed h hrest
    obtain ⟨n, found⟩ := p
    have hget : (new.zip m.found)[done.length]? = some (n, found) := by
      rw [← List.head?_drop, ← hrest, List.head?_cons]
    have hrest' : ∀ x : Option Table, rest = (new.zip m.found).drop (done ++ [x]).length := by
      intro x
      rw [List.length_append, List.length_singleton, ← List.tail_drop, ← hrest, List.tail_cons]
    obtain ⟨hn, hfound⟩ := List.getElem?_zip_eq_some.mp hget
    have hlt := (List.getElem?_eq_some_iff.mp hn).1
    have hnames : ∀ x : Option Table, ((names.map some).drop done.length).tail =
        (names.map some).drop (done ++ [x]).length := by
      intro x
      rw [List.tail_drop, List.length_append, List.length_singleton]
    cases found with
    | some o =>
      have ho := (hm.found_iff done.length o).mp hfound
      have hplace : ∀ q, ¬ TakesByPlace old names new done.length q :=
        fun q hq => (takesByPlace_iff.mp hq).2.1 o ho
      have hnext : PlacesFound old names new (done ++ [some o]) claimed := h.skip hlt
        (fun q => ⟨fun heq => Option.some.inj heq ▸ Or.inl ho,
          fun hq => congrArg some (Takes.unique (Or.inl ho) hq)⟩) hplace
      rw [matchPositions, hnames (some o)]
      exact ih _ _ hnext (hrest' _)
    | none =>
      have hnone : ∀ q, ¬ TakesByName old new done.length q := by
        intro q hq
        cases hfound.symm.trans ((hm.found_iff done.length q).mpr hq)
      have hiff := takesByPlace_iff_renamedFrom? h hn hnone
      have hhead : ((names.map some).drop done.length).head?.getD none = names[done.length]? := by
        rw [List.head?_drop, List.getElem?_map]
        cases names[done.length]? <;> rfl
      rw [matchPositions, hhead]
      cases hcandidate : renamedFrom? old names[done.length]? n with
      | none =>
        have hplace : ∀ q, ¬ TakesByPlace old names new done.length q := by
          intro q hq
          cases hcandidate.symm.trans ((hiff q).mp hq).1
        have hnext : PlacesFound old names new (done ++ [none]) claimed := h.skip hlt
          (fun q => ⟨nofun, fun hq => (hq.elim (hnone q) (hplace q)).elim⟩) hplace
        simp only [Matching.add]
        rw [hnames none]
        exact ih _ _ hnext (hrest' _)
      | some q =>
        by_cases hq : q.id ∈ claimed
        · have hplace : ∀ r, ¬ TakesByPlace old names new done.length r := by
            intro r hr
            obtain ⟨heq, hfree⟩ := (hiff r).mp hr
            obtain rfl : q = r := Option.some.inj (hcandidate.symm.trans heq)
            exact hfree hq
          have hnext : PlacesFound old names new (done ++ [none]) claimed := h.skip hlt
            (fun r => ⟨nofun, fun hr => (hr.elim (hnone r) (hplace r)).elim⟩) hplace
          simp only [Matching.add, List.contains_iff_mem, hq, if_true]
          rw [hnames none]
          exact ih _ _ hnext (hrest' _)
        · have hnext := h.claim hids hlt ((hiff q).mpr ⟨hcandidate, hq⟩)
          simp only [Matching.add, List.contains_iff_mem, hq, if_false]
          rw [hnames (some q)]
          exact ih _ _ hnext (hrest' _)

theorem matching_spec {old : List Table} (hids : (old.map (·.id)).Nodup) (names : List String)
    (new : List Table) :
    (matching old names new).length = new.length ∧
      ∀ i o, (matching old names new)[i]? = some (some o) ↔ Takes old names new i o := by
  have hnames := matchNames_spec hids new
  have hstart : PlacesFound old names new [] (matchNames old new).claimed :=
    ⟨by simp, by simp, fun o ho => by simp [hnames.claimed_iff o ho]⟩
  obtain ⟨claimed, hplaces, hlength⟩ :=
    matchPositions_spec hids hnames (new.zip (matchNames old new).found) [] _ hstart rfl
  refine ⟨hlength, fun i o => ?_⟩
  rcases Nat.lt_or_ge i new.length with hi | hi
  · exact hplaces.found_iff i (hlength.symm ▸ hi) o
  · have htakes : ¬ Takes old names new i o := by
      rintro (h | h)
      · have := h.lt_length
        omega
      · have := (takesByPlace_iff.mp h).1
        omega
    rw [List.getElem?_eq_none (hlength.symm ▸ hi)]
    simp [htakes]

end Reconciliation

end SchemaDesk

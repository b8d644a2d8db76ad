import Mathlib.Data.List.Nodup
import Mathlib.Data.List.Perm.Subperm
import SchemaDesk.Naming
import SchemaDesk.Proofs.Text.Name
/-!
Unused names are free, whatever the letter case. The numbered forms of a name all differ in lower case, so that among
one more of them than there are taken names a free one is found.

As a loop, the search tries one number after the other as long as the numbered name is taken. The names that it passes
over, with the base name, are no more than the taken names; it ends at the least number whose name is free.
-/

namespace SchemaDesk

namespace Text

/-! ### Lower case up to an underscore

A capital sigma is looked at with its surroundings, but an underscore is no letter and ends every word. So what stands
behind it has no influence on the lower case of what stands before it. -/

set_option maxRecDepth 4000 in
theorem isCaseIgnorable_underscore : isCaseIgnorable '_' = false := by decide

theorem startsCased_underscore (cs ds : List Char) : startsCased (cs ++ '_' :: ds) = startsCased (cs ++ ['_']) := by
  induction cs with
  | nil => simp [startsCased, isCaseIgnorable_underscore]
  | cons c cs ih => simp only [List.cons_append, startsCased, ih]

theorem lowerFrom_underscore (before cs ds : List Char) :
    lowerFrom before (cs ++ '_' :: ds) =
      lowerFrom before (cs ++ ['_']) ++ lowerFrom ('_' :: (cs.reverse ++ before)) ds := by
  induction cs generalizing before with
  | nil => rfl
  | cons c cs ih =>
    have hchar : lowerChar before c (cs ++ '_' :: ds) = lowerChar before c (cs ++ ['_']) := by
      rw [lowerChar, lowerChar, startsCased_underscore]
    rw [List.cons_append, List.cons_append, lowerFrom, lowerFrom, hchar, ih, List.append_assoc]
    simp

theorem lowerChar_of_isDigit {c : Char} (h : c.isDigit = true) (before after : List Char) :
    lowerChar before c after = [c] := by
  have hlower : c.toLower = c := by
    refine dif_neg ?_
    rintro ⟨hcapital, -⟩
    simp only [Char.isDigit, Bool.and_eq_true, decide_eq_true_eq, UInt32.le_iff_toNat_le, ge_iff_le] at h hcapital
    exact absurd (Nat.le_trans hcapital h.2) (by decide)
  have hascii : isAscii c = true := by simpa [isAscii] using isAscii_of_isDigit h
  rw [lowerChar, if_pos hascii, hlower]

theorem lowerFrom_digits {ds : List Char} (h : ∀ d ∈ ds, d.isDigit = true) (before : List Char) :
    lowerFrom before ds = ds := by
  induction ds generalizing before with
  | nil => rfl
  | cons d ds ih =>
    rw [List.forall_mem_cons] at h
    rw [lowerFrom, lowerChar_of_isDigit h.1, ih h.2, List.singleton_append]

/-! ### The length of the lower case -/

/-- What stands around a letter may change its lower case, but not the length of that. -/
theorem length_lowerChar (c : Char) (before after before' after' : List Char) :
    (lowerChar before c after).length = (lowerChar before' c after').length := by
  rw [lowerChar, lowerChar]
  split_ifs <;> rfl

theorem length_lowerFrom (cs before before' : List Char) :
    (lowerFrom before cs).length = (lowerFrom before' cs).length := by
  induction cs generalizing before before' with
  | nil => rfl
  | cons c cs ih =>
    rw [lowerFrom, lowerFrom, List.length_append, List.length_append, length_lowerChar c before cs before' cs,
      ih (c :: before) (c :: before')]

theorem length_lowerFrom_append (before cs ds : List Char) :
    (lowerFrom before (cs ++ ds)).length = (lowerFrom before cs).length + (lowerFrom before ds).length := by
  induction cs generalizing before with
  | nil => rw [List.nil_append, lowerFrom, List.length_nil, Nat.zero_add]
  | cons c cs ih =>
    rw [List.cons_append, lowerFrom, lowerFrom, List.length_append, List.length_append, ih,
      length_lowerChar c before (cs ++ ds) before cs, length_lowerFrom ds (c :: before) before, Nat.add_assoc]

end Text

namespace Naming

variable {base name : String} {existing : List String} {j k n r : Nat}

theorem toList_numbered (base : String) (k : Nat) :
    (numbered base k).toList = base.toList ++ '_' :: Nat.toDigits 10 k := by
  simp [numbered, Text.natText]

theorem lower_numbered (base : String) (k : Nat) :
    Text.lower (numbered base k) =
      String.ofList (Text.lowerFrom [] (base.toList ++ ['_']) ++ Nat.toDigits 10 k) := by
  rw [Text.lower, Text.lowerChars, toList_numbered, Text.lowerFrom_underscore,
    Text.lowerFrom_digits fun d hd => Nat.isDigit_of_mem_toDigits (by decide) (by decide) hd]

theorem lower_numbered_injective (base : String) : Function.Injective fun k => Text.lower (numbered base k) := by
  intro j k h
  simp only [lower_numbered, String.ofList_inj] at h
  have hdigits : Nat.toDigits 10 j = Nat.toDigits 10 k := List.append_cancel_left h
  rw [← Nat.ofDigitChars_ten_toDigits (n := j), hdigits, Nat.ofDigitChars_ten_toDigits]

theorem isFree_iff : isFree existing name = true ↔ ∀ other ∈ existing, Text.lower other ≠ Text.lower name := by
  simp [isFree, Text.sameName]

/-- One of the names is the given one, whatever the letter case. -/
def IsTaken (existing : List String) (name : String) : Prop := Text.lower name ∈ existing.map Text.lower

theorem isFree_iff_not_isTaken : isFree existing name = true ↔ ¬ IsTaken existing name := by
  rw [isFree_iff, IsTaken, List.mem_map]
  exact ⟨fun h ⟨other, hother, heq⟩ => h other hother heq, fun h other hother heq => h ⟨other, hother, heq⟩⟩

theorem isFree_eq_false_iff : isFree existing name = false ↔ IsTaken existing name := by
  rw [← Bool.not_eq_true, isFree_iff_not_isTaken, not_not]

instance : Decidable (IsTaken existing name) := decidable_of_iff _ isFree_eq_false_iff

/-- Different names that are all taken are no more than the given ones. -/
theorem length_le_of_isTaken {names : List String} (hdistinct : (names.map Text.lower).Nodup)
    (htaken : ∀ name ∈ names, IsTaken existing name) : names.length ≤ existing.length := by
  have hsubset : names.map Text.lower ⊆ existing.map Text.lower := by
    intro x hx
    obtain ⟨name, hname, rfl⟩ := List.mem_map.mp hx
    exact htaken name hname
  have hlength := (List.subperm_of_subset hdistinct hsubset).length_le
  rwa [List.length_map, List.length_map] at hlength

theorem nodup_lower_numbered (base : String) (k : Nat) :
    (((List.range k).map fun j => numbered base (j + 1)).map Text.lower).Nodup := by
  rw [List.map_map]
  exact List.nodup_range.map fun i j h => Nat.succ.inj (lower_numbered_injective base h)

theorem exists_isFree_numbered (base : String) (existing : List String) :
    ∃ k ∈ List.range (existing.length + 1), isFree existing (numbered base (k + 1)) = true := by
  by_contra hnone
  -- Otherwise as many different names are taken as candidates are tried, one more than there are.
  have htaken : ∀ name ∈ (List.range (existing.length + 1)).map fun k => numbered base (k + 1),
      IsTaken existing name := by
    intro name hname
    obtain ⟨k, hk, rfl⟩ := List.mem_map.mp hname
    exact isFree_eq_false_iff.mp (Bool.eq_false_iff.mpr fun hfree => hnone ⟨k, hk, hfree⟩)
  have hlength := length_le_of_isTaken (nodup_lower_numbered base _) htaken
  rw [List.length_map, List.length_range] at hlength
  exact Nat.not_succ_le_self _ hlength

theorem isFree_unusedName (base : String) (existing : List String) :
    isFree existing (unusedName base existing) = true := by
  rw [unusedName]
  split
  · assumption
  · split
    · next k hk => simpa using List.find?_some hk
    · next hnone =>
      obtain ⟨k, hk, hfree⟩ := exists_isFree_numbered base existing
      have hk' := List.find?_eq_none.mp hnone k hk
      exact absurd hfree hk'

theorem unusedName_ne_empty {base : String} (h : base ≠ "") (existing : List String) :
    unusedName base existing ≠ "" := by
  have hnumbered : ∀ k, numbered base k ≠ "" := by
    intro k hk
    have hchars := congrArg String.toList hk
    simp [numbered] at hchars
  rw [unusedName]
  split
  · exact h
  · split <;> exact hnumbered _

/-! ### The loop -/

/-- From the number `k` on, the loop goes on for `n` rounds and ends with the number `r`. -/
inductive Search (base : String) (existing : List String) : Nat → Nat → Nat → Prop
  | stop {k : Nat} (hfree : ¬ IsTaken existing (numbered base k)) : Search base existing k 0 k
  | step {k n r : Nat} (htaken : IsTaken existing (numbered base k)) (hrest : Search base existing (k + 1) n r) :
      Search base existing k (n + 1) r

/-- A run of the loop goes over taken names up to the first free one, one name in each round. -/
theorem search_iff : Search base existing k n r ↔
    r = k + n ∧ ¬ IsTaken existing (numbered base r) ∧
      ∀ j, k ≤ j → j < r → IsTaken existing (numbered base j) := by
  constructor
  · intro h
    induction h with
    | stop hfree => exact ⟨rfl, hfree, fun j hkj hjk => absurd hkj (by omega)⟩
    | @step k n r htaken _ ih =>
      obtain ⟨hr, hfree, hbefore⟩ := ih
      refine ⟨by omega, hfree, fun j hkj hjr => ?_⟩
      by_cases hj : j = k
      · exact hj ▸ htaken
      · exact hbefore j (by omega) hjr
  · rintro ⟨rfl, hfree, hbefore⟩
    induction n generalizing k with
    | zero => exact .stop hfree
    | succ n ih =>
      have hshift : k + (n + 1) = k + 1 + n := by omega
      rw [hshift] at hfree hbefore ⊢
      exact .step (hbefore k (by omega) (by omega)) (ih hfree fun j hkj hjr => hbefore j (by omega) hjr)

/-! ### The bound -/

/-- A numbered name is longer than its base in lower case, too. -/
theorem lower_ne_lower_numbered (base : String) (k : Nat) : Text.lower base ≠ Text.lower (numbered base k) := by
  intro h
  rw [Text.lower, Text.lower, String.ofList_inj, Text.lowerChars, Text.lowerChars, toList_numbered] at h
  have hlength := Text.length_lowerFrom_append [] base.toList ('_' :: Nat.toDigits 10 k)
  have hunderscore : (Text.lowerChar [] '_' (Nat.toDigits 10 k)).length = 1 := rfl
  rw [← h, Text.lowerFrom, List.length_append, hunderscore] at hlength
  omega

/-- If the base name and the first numbered ones are taken, there are more taken names than these numbers. -/
theorem lt_length_of_isTaken (hbase : IsTaken existing base)
    (hnumbered : ∀ j, 1 ≤ j → j ≤ k → IsTaken existing (numbered base j)) : k < existing.length := by
  have hdistinct : ((base :: (List.range k).map fun j => numbered base (j + 1)).map Text.lower).Nodup := by
    refine List.nodup_cons.mpr ⟨fun hmem => ?_, nodup_lower_numbered base k⟩
    rw [List.map_map] at hmem
    obtain ⟨j, -, heq⟩ := List.mem_map.mp hmem
    exact lower_ne_lower_numbered base (j + 1) heq.symm
  have htaken : ∀ name ∈ base :: (List.range k).map fun j => numbered base (j + 1), IsTaken existing name := by
    refine List.forall_mem_cons.mpr ⟨hbase, fun name hname => ?_⟩
    obtain ⟨j, hj, rfl⟩ := List.mem_map.mp hname
    exact hnumbered (j + 1) (Nat.le_add_left 1 j) (List.mem_range.mp hj)
  have hlength := length_le_of_isTaken hdistinct htaken
  rwa [List.length_cons, List.length_map, List.length_range] at hlength

theorem unusedName_of_not_isTaken (h : ¬ IsTaken existing base) : unusedName base existing = base := by
  rw [unusedName, if_pos (isFree_iff_not_isTaken.mpr h)]

/-- A taken base name is numbered with the least number that makes it a free one. -/
theorem exists_unusedName_eq_numbered (h : IsTaken existing base) :
    ∃ k, 1 ≤ k ∧ unusedName base existing = numbered base k ∧ ¬ IsTaken existing (numbered base k) ∧
      ∀ j, 1 ≤ j → j < k → IsTaken existing (numbered base j) := by
  have hbase : ¬ isFree existing base = true := by rwa [isFree_iff_not_isTaken, not_not]
  rw [unusedName, if_neg hbase]
  cases hfind : (List.range (existing.length + 1)).find? fun k => isFree existing (numbered base (k + 1)) with
  | none =>
    obtain ⟨k, hk, hfree⟩ := exists_isFree_numbered base existing
    exact absurd hfree (List.find?_eq_none.mp hfind k hk)
  | some k =>
    obtain ⟨hfree, -, hbefore⟩ := List.find?_range_eq_some.mp hfind
    refine ⟨k + 1, by omega, rfl, isFree_iff_not_isTaken.mp hfree, fun j hj hjk => ?_⟩
    have hpred : j - 1 + 1 = j := by omega
    have htaken := hbefore (j - 1) (by omega)
    rw [Bool.not_eq_true', hpred] at htaken
    exact isFree_eq_false_iff.mp htaken

/-- An unused name is free: it is the base name if that is free, and else the numbered name at which the loop from one
on ends. The loop has just one run; it tries as many names as the number that it ends with says, and these are no more
than the given names. -/
theorem unusedName_is_least (base : String) (existing : List String) :
    ¬ IsTaken existing (unusedName base existing) ∧
      (¬ IsTaken existing base → unusedName base existing = base) ∧
      (IsTaken existing base → ∃ k, 1 ≤ k ∧ k ≤ existing.length ∧ unusedName base existing = numbered base k ∧
        ¬ IsTaken existing (numbered base k) ∧ (∀ j, 1 ≤ j → j < k → IsTaken existing (numbered base j)) ∧
        ∀ n r, Search base existing 1 n r ↔ r = k ∧ n + 1 = k) := by
  refine ⟨isFree_iff_not_isTaken.mp (isFree_unusedName base existing), unusedName_of_not_isTaken, fun hbase => ?_⟩
  obtain ⟨k, hk, heq, hfree, hbefore⟩ := exists_unusedName_eq_numbered hbase
  have hbound : k - 1 < existing.length :=
    lt_length_of_isTaken hbase fun j hj hjk => hbefore j hj (by omega)
  refine ⟨k, hk, by omega, heq, hfree, hbefore, fun n r => ?_⟩
  rw [search_iff]
  constructor
  · rintro ⟨hr, hfree', hbefore'⟩
    -- neither of two least numbers is less than the other one
    have hkr : ¬ k < r := fun hlt => hfree (hbefore' k hk hlt)
    have hrk : ¬ r < k := fun hlt => hfree' (hbefore r (by omega) hlt)
    omega
  · rintro ⟨rfl, hn⟩
    exact ⟨by omega, hfree, hbefore⟩

theorem unusedName_is_least_users : IsTaken ["Users", "USERS_1"] "users" ∧ ∃ k, 1 ≤ k ∧ k ≤ 2 ∧
    unusedName "users" ["Users", "USERS_1"] = numbered "users" k ∧ Search "users" ["Users", "USERS_1"] 1 1 k := by
  have htaken : IsTaken ["Users", "USERS_1"] "users" := by decide +kernel
  have htaken_one : IsTaken ["Users", "USERS_1"] (numbered "users" 1) := by decide +kernel
  obtain ⟨k, hk, hbound, heq, hfree, -, hruns⟩ := (unusedName_is_least "users" ["Users", "USERS_1"]).2.2 htaken
  have hone : k ≠ 1 := fun h => hfree (h ▸ htaken_one)
  have hbound : k ≤ 2 := hbound
  exact ⟨htaken, k, hk, hbound, heq, (hruns 1 k).mpr ⟨rfl, by omega⟩⟩

end Naming

end SchemaDesk

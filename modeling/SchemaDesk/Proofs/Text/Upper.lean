import SchemaDesk.Proofs.Text.Name
/-!
Texts in upper case with single spaces, the form in which words are compared: a text in that form is left as it is.
Beyond ASCII this is a fact about the tables of letters.
-/

namespace SchemaDesk.Text

open CaseTable

/-! ### Upper case -/

/-- The partner of the first character of the run. -/
def CaseRun.low (r : CaseRun) : Nat := ((r.first : Int) + r.shift).toNat

/-- The partner of the last character of the run. -/
def CaseRun.high (r : CaseRun) : Nat := r.low + (r.last - r.first)

/-- Some number between the bounds lies between those of the run. -/
def CaseRun.meets (low high : Nat) (r : CaseRun) : Bool := Nat.ble r.first high && Nat.ble low r.last

/-- The number of a character that no letter case changes, or of a capital letter in ASCII. -/
def IsUpper (n : Nat) : Prop :=
  (65 ≤ n ∧ n ≤ 90) ∨ 128 ≤ n ∧ upperExpansions.lookup n = none ∧ ∀ r ∈ upperRuns, r.contains n = false

/-! What the tables say, tried out: the partners are characters, mostly beyond ASCII, and have no partners of their
own. Where the partners of a run and another run meet, the two take turns. -/

set_option maxRecDepth 8000 in
theorem partners_real : ∀ r ∈ upperRuns, 0 ≤ (r.first : Int) + r.shift ∧ (r.step = 1 ∨ r.step = 2) ∧
    (r.high < 0xD800 ∨ 0xDFFF < r.low ∧ r.high < 0x110000) ∧
    (128 ≤ r.low ∨ r.first = r.last ∧ 65 ≤ r.low ∧ r.low ≤ 90) := by
  decide +kernel

set_option maxRecDepth 8000 in
theorem partners_apart : ∀ r ∈ upperRuns, ∀ s ∈ upperRuns.filter (CaseRun.meets r.low r.high),
    s.step = 2 ∧ (r.step = 2 ∨ r.first = r.last) ∧ r.low % 2 ≠ s.first % 2 := by
  decide +kernel

set_option maxRecDepth 8000 in
theorem partners_unexpanded : ∀ r ∈ upperRuns,
    ∀ e ∈ upperExpansions.filter fun e => Nat.ble r.low e.1 && Nat.ble e.1 r.high,
      r.step = 2 ∧ r.low % 2 ≠ e.1 % 2 := by
  decide +kernel

set_option maxRecDepth 8000 in
theorem expansions_settled : ∀ e ∈ upperExpansions, ∀ n ∈ e.2, (n < 0xD800 ∨ 0xDFFF < n ∧ n < 0x110000) ∧
    (65 ≤ n ∧ n ≤ 90 ∨ 128 ≤ n ∧ upperExpansions.lookup n = none ∧ upperRuns.filter (CaseRun.meets n n) = []) := by
  decide +kernel

theorem toNat_ofNat {n : Nat} (h : n < 0xD800 ∨ 0xDFFF < n ∧ n < 0x110000) : (Char.ofNat n).toNat = n := by
  have hvalid : n.isValidChar := h
  rw [Char.ofNat, dif_pos hvalid]
  rfl

theorem CaseRun.contains_iff {r : CaseRun} {n : Nat} :
    r.contains n = true ↔ r.first ≤ n ∧ n ≤ r.last ∧ (n - r.first) % r.step = 0 := by
  simp [contains, and_assoc]

theorem CaseRun.meets_of_contains {r : CaseRun} {low high n : Nat} (h : r.contains n = true) (hlow : low ≤ n)
    (hhigh : n ≤ high) : r.meets low high = true := by
  obtain ⟨hfirst, hlast, -⟩ := contains_iff.mp h
  simp only [meets, Bool.and_eq_true, Nat.ble_eq]
  exact ⟨Nat.le_trans hfirst hhigh, Nat.le_trans hlow hlast⟩

/-- No partner in a run has a partner of its own. -/
theorem isUpper_of_contains {r : CaseRun} (hr : r ∈ upperRuns) {n : Nat} (hn : r.contains n = true) :
    (Char.ofNat ((n : Int) + r.shift).toNat).toNat = ((n : Int) + r.shift).toNat ∧
      IsUpper ((n : Int) + r.shift).toNat := by
  obtain ⟨hpositive, hstep, hvalid, hascii⟩ := partners_real r hr
  obtain ⟨hfirst, hlast, hmod⟩ := CaseRun.contains_iff.mp hn
  have hlow : (r.low : Int) = r.first + r.shift := Int.toNat_of_nonneg hpositive
  have hhigh : r.high = r.low + (r.last - r.first) := rfl
  obtain ⟨m, hm⟩ : ∃ m, ((n : Int) + r.shift).toNat = m := ⟨_, rfl⟩
  have hmlow : m = r.low + (n - r.first) := by omega
  rw [hm]
  refine ⟨toNat_ofNat (by omega), ?_⟩
  rcases hascii with hbeyond | ⟨hone, hcapital⟩
  case inr =>
    exact Or.inl (by omega)
  refine Or.inr ⟨by omega, ?_, fun s hs => ?_⟩
  · refine List.lookup_eq_none_iff.mpr fun e he => bne_iff_ne.mpr ?_
    rintro rfl
    have hbounds : (Nat.ble r.low e.1 && Nat.ble e.1 r.high) = true := by
      simp only [Bool.and_eq_true, Nat.ble_eq]
      omega
    obtain ⟨htwo, hparity⟩ := partners_unexpanded r hr e (List.mem_filter.mpr ⟨he, hbounds⟩)
    rw [htwo] at hmod
    omega
  · refine Bool.eq_false_iff.mpr fun hcontains => ?_
    have hmeets : s.meets r.low r.high = true := CaseRun.meets_of_contains hcontains (by omega) (by omega)
    obtain ⟨htwo, hturns, hparity⟩ := partners_apart r hr s (List.mem_filter.mpr ⟨hs, hmeets⟩)
    obtain ⟨hsfirst, -, hsmod⟩ := CaseRun.contains_iff.mp hcontains
    rw [htwo] at hsmod
    rcases hturns with hturns | hturns
    · rw [hturns] at hmod
      omega
    · omega

/-- An upper-case character is that of an ASCII letter, or one that stays as it is. -/
theorem mem_upperChar {c x : Char} (hx : x ∈ upperChar c) :
    (isAscii c = true ∧ x = c.toUpper) ∨ IsUpper x.toNat ∨ (isAscii c = false ∧ x = c ∧ upperChar c = [c]) := by
  rw [upperChar] at hx
  split at hx
  · next hascii => exact Or.inl ⟨hascii, List.mem_singleton.mp hx⟩
  · next hascii =>
    split at hx
    · next ns hlookup =>
      obtain ⟨n, hn, rfl⟩ := List.mem_map.mp hx
      obtain ⟨before, after, hsplit, -⟩ := List.lookup_eq_some_iff.mp hlookup
      have hmem : (c.toNat, ns) ∈ upperExpansions := by simp [hsplit]
      obtain ⟨hvalid, hsettled⟩ := expansions_settled _ hmem n hn
      rw [toNat_ofNat hvalid]
      refine Or.inr (Or.inl (hsettled.imp_right fun ⟨hbeyond, hlookup, hruns⟩ => ⟨hbeyond, hlookup, fun r hr => ?_⟩))
      refine Bool.eq_false_iff.mpr fun hcontains => ?_
      have hmeets := List.filter_eq_nil_iff.mp hruns r hr
      exact hmeets (CaseRun.meets_of_contains hcontains (Nat.le_refl n) (Nat.le_refl n))
    · next hlookup =>
      obtain rfl := List.mem_singleton.mp hx
      cases hpartner : partner? upperRuns c with
      | none => exact Or.inr (Or.inr ⟨by simpa using hascii, rfl, by simp [upperChar, hascii, hlookup, hpartner]⟩)
      | some y =>
        obtain ⟨r, hfind, rfl⟩ := Option.map_eq_some_iff.mp hpartner
        have hcontains : r.contains c.toNat = true := by simpa using List.find?_some hfind
        obtain ⟨htoNat, hupper⟩ := isUpper_of_contains (List.mem_of_find?_eq_some hfind) hcontains
        rw [Option.getD_some, htoNat]
        exact Or.inr (Or.inl hupper)

theorem ascii_toUpper : ∀ n < 128, upperChar (Char.ofNat n).toUpper = [(Char.ofNat n).toUpper] ∧
    (65 ≤ n ∧ n ≤ 90 → upperChar (Char.ofNat n) = [Char.ofNat n]) ∧
    ((65 ≤ (Char.ofNat n).toUpper.toNat ∧ (Char.ofNat n).toUpper.toNat ≤ 90) ∨
      (Char.ofNat n).toUpper = Char.ofNat n) := by
  decide +kernel

theorem toUpper_known {c : Char} (hc : isAscii c = true) : upperChar c.toUpper = [c.toUpper] ∧
    (65 ≤ c.toNat ∧ c.toNat ≤ 90 → upperChar c = [c]) ∧
    ((65 ≤ c.toUpper.toNat ∧ c.toUpper.toNat ≤ 90) ∨ c.toUpper = c) := by
  have h := ascii_toUpper c.toNat (by simpa [isAscii] using hc)
  rwa [Char.ofNat_toNat] at h

theorem IsUpper.upperChar_eq {c : Char} (h : IsUpper c.toNat) : upperChar c = [c] := by
  rcases h with hcapital | ⟨hbeyond, hlookup, hruns⟩
  · have hascii : isAscii c = true := by simp [isAscii]; omega
    exact (toUpper_known hascii).2.1 hcapital
  · have hascii : isAscii c = false := by simp [isAscii]; omega
    have hpartner : partner? upperRuns c = none := by
      rw [partner?, Option.map_eq_none_iff, List.find?_eq_none]
      exact fun r hr => by simp [hruns r hr]
    simp [upperChar, hascii, hlookup, hpartner]

/-- An upper-case character has itself for its upper case. -/
theorem upperChar_of_mem {c x : Char} (hx : x ∈ upperChar c) : upperChar x = [x] := by
  rcases mem_upperChar hx with ⟨hascii, rfl⟩ | hupper | ⟨-, rfl, hself⟩
  · exact (toUpper_known hascii).1
  · exact hupper.upperChar_eq
  · exact hself

/-- In ASCII, upper case makes capital letters and no other characters. -/
theorem eq_of_mem_upperChar {x c : Char} (hascii : x.toNat < 128) (hcapital : ¬ (65 ≤ x.toNat ∧ x.toNat ≤ 90))
    (hx : x ∈ upperChar c) : c = x := by
  rcases mem_upperChar hx with ⟨hc, rfl⟩ | hupper | ⟨-, rfl, -⟩
  · exact ((toUpper_known hc).2.2.resolve_left hcapital).symm
  · rcases hupper with hupper | ⟨hbeyond, -⟩ <;> omega
  · rfl

theorem upperChars_append (cs ds : List Char) : upperChars (cs ++ ds) = upperChars cs ++ upperChars ds :=
  List.flatMap_append

theorem upperChars_eq_self {cs : List Char} (h : ∀ c ∈ cs, upperChar c = [c]) : upperChars cs = cs := by
  induction cs with
  | nil => rfl
  | cons c cs ih =>
    have hcs := ih fun x hx => h x (by simp [hx])
    rw [upperChars] at hcs ⊢
    rw [List.flatMap_cons, h c (by simp), hcs]
    rfl

/-! ### Single spaces -/

theorem mem_of_mem_splitOnP {p : Char → Bool} {cs w : List Char} (hw : w ∈ cs.splitOnP p) :
    ∀ c ∈ w, c ∈ cs ∧ p c = false := by
  induction cs generalizing w with
  | nil =>
    obtain rfl := List.mem_singleton.mp hw
    exact nofun
  | cons x cs ih =>
    have hrest {v : List Char} (hv : v ∈ cs.splitOnP p) : ∀ c ∈ v, c ∈ x :: cs ∧ p c = false :=
      fun c hc => ⟨List.mem_cons_of_mem x (ih hv c hc).1, (ih hv c hc).2⟩
    rw [List.splitOnP_cons_eq_if_modifyHead] at hw
    split at hw
    · rcases List.mem_cons.mp hw with rfl | hw
      · exact nofun
      · exact hrest hw
    · next hx =>
      cases hsplit : cs.splitOnP p with
      | nil => exact (List.splitOnP_ne_nil p cs hsplit).elim
      | cons v vs =>
        rw [hsplit, List.modifyHead_cons] at hw
        rw [hsplit] at hrest
        rcases List.mem_cons.mp hw with rfl | hw
        · intro c hc
          rcases List.mem_cons.mp hc with rfl | hc
          · exact ⟨by simp, by simpa using hx⟩
          · exact hrest (by simp) c hc
        · exact hrest (List.mem_cons_of_mem v hw)

theorem word_of_mem_words {cs w : List Char} (h : w ∈ words cs) : w ≠ [] ∧ ∀ c ∈ w, c ∈ cs ∧ isBlank c = false := by
  obtain ⟨hmem, hne⟩ := List.mem_filter.mp h
  exact ⟨by simpa using hne, mem_of_mem_splitOnP hmem⟩

theorem words_intercalate {ws : List (List Char)} (h : ∀ w ∈ ws, w ≠ [] ∧ ∀ c ∈ w, isBlank c = false) :
    words ([' '].intercalate ws) = ws := by
  match ws with
  | [] => rfl
  | [w] =>
    obtain ⟨hne, hw⟩ := h w (by simp)
    rw [List.intercalate_singleton, words, List.splitOnP_eq_singleton hw, List.filter_cons_of_pos (by simpa using hne),
      List.filter_nil]
  | w :: v :: ws =>
    obtain ⟨hne, hw⟩ := h w (by simp)
    have hrest := words_intercalate fun x hx => h x (List.mem_cons_of_mem w hx)
    rw [words] at hrest
    rw [List.intercalate_cons_cons, List.append_assoc, List.singleton_append, words,
      List.splitOnP_append_cons_of_forall_mem hw ' ' (by rfl), List.filter_cons_of_pos (by simpa using hne), hrest]

theorem collapseChars_collapseChars (cs : List Char) : collapseChars (collapseChars cs) = collapseChars cs := by
  rw [collapseChars, collapseChars, words_intercalate fun w hw => ?_]
  exact ⟨(word_of_mem_words hw).1, fun c hc => ((word_of_mem_words hw).2 c hc).2⟩

theorem mem_intercalate {c x : Char} {ws : List (List Char)} (hc : c ∈ [x].intercalate ws) :
    c = x ∨ ∃ w ∈ ws, c ∈ w := by
  match ws with
  | [] => cases hc
  | [w] => exact Or.inr ⟨w, by simp, by simpa using hc⟩
  | w :: v :: ws =>
    rw [List.intercalate_cons_cons, List.mem_append, List.mem_append] at hc
    rcases hc with (hc | hc) | hc
    · exact Or.inr ⟨w, by simp, hc⟩
    · exact Or.inl (List.mem_singleton.mp hc)
    · exact (mem_intercalate hc).imp_right fun ⟨x, hx, hcx⟩ => ⟨x, List.mem_cons_of_mem w hx, hcx⟩

theorem mem_collapseChars {c : Char} {cs : List Char} (hc : c ∈ collapseChars cs) : c = ' ' ∨ c ∈ cs := by
  rcases mem_intercalate hc with rfl | ⟨w, hw, hcw⟩
  · exact Or.inl rfl
  · exact Or.inr ((word_of_mem_words hw).2 c hcw).1

/-! ### Both -/

/-- The characters in upper case with single spaces. -/
def caselessChars (cs : List Char) : List Char := collapseChars (upperChars cs)

theorem caselessChars_caselessChars (cs : List Char) : caselessChars (caselessChars cs) = caselessChars cs := by
  have hself : upperChars (caselessChars cs) = caselessChars cs := by
    refine upperChars_eq_self fun c hc => ?_
    rcases mem_collapseChars hc with rfl | hc
    · decide
    · obtain ⟨x, -, hx⟩ := List.mem_flatMap.mp hc
      exact upperChar_of_mem hx
  rw [caselessChars, hself, caselessChars, collapseChars_collapseChars]

/-- The brackets that types have around their numbers and behind their names. -/
def isBracket (c : Char) : Bool := c == '(' || c == ')' || c == '[' || c == ']'

theorem isBracket_cases {b : Char} (hb : isBracket b = true) : b = '(' ∨ b = ')' ∨ b = '[' ∨ b = ']' := by
  simpa [isBracket, or_assoc] using hb

theorem bracket_of_mem_upperChar {b c : Char} (hb : isBracket b = true) (hx : b ∈ upperChar c) : c = b := by
  rcases isBracket_cases hb with rfl | rfl | rfl | rfl <;> exact eq_of_mem_upperChar (by decide) (by decide) hx

theorem isBlank_of_isBracket {b : Char} (hb : isBracket b = true) : isBlank b = false := by
  rcases isBracket_cases hb with rfl | rfl | rfl | rfl <;> rfl

/-- Brackets come from brackets. -/
theorem bracket_of_mem_caselessChars {b : Char} {cs : List Char} (hb : isBracket b = true)
    (h : b ∈ caselessChars cs) : b ∈ cs := by
  rcases mem_collapseChars h with rfl | h
  · cases hb
  · obtain ⟨c, hc, hx⟩ := List.mem_flatMap.mp h
    rwa [← bracket_of_mem_upperChar hb hx]

end SchemaDesk.Text

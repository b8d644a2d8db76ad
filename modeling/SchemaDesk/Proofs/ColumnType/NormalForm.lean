import SchemaDesk.Proofs.Extraction.Spelling
import SchemaDesk.Proofs.Text.Occurrence
import SchemaDesk.Proofs.Text.Search
/-!
The normal form of a spelling, taken once and again. Parameters are left out line by line, array bounds from the left,
and the line ends and the letter case only then; so that one pass may put together what only a second one would leave
out. The main result says of which spellings this is true.
-/

namespace SchemaDesk

namespace Text

/-! ### Brackets in upper case with single spaces -/

theorem expansions_nonempty : ∀ e ∈ CaseTable.upperExpansions, e.2 ≠ [] := by
  decide +kernel

theorem upperChar_ne_nil (c : Char) : upperChar c ≠ [] := by
  rw [upperChar]
  split
  · simp
  · split
    · next ns hlookup =>
      obtain ⟨before, after, hsplit, -⟩ := List.lookup_eq_some_iff.mp hlookup
      simpa using expansions_nonempty (c.toNat, ns) (by simp [hsplit])
    · simp

theorem upperChar_bracket {b : Char} (hb : isBracket b = true) : upperChar b = [b] := by
  rcases isBracket_cases hb with rfl | rfl | rfl | rfl <;> rfl

theorem flatten_splitOnP (p : Char → Bool) (cs : List Char) : (cs.splitOnP p).flatten = cs.filter fun c => !p c := by
  induction cs with
  | nil => rfl
  | cons c cs ih =>
    rw [List.splitOnP_cons_eq_if_modifyHead]
    cases hc : p c with
    | true => simp [hc, ih]
    | false =>
      obtain ⟨w, ws, hsplit⟩ := List.exists_cons_of_ne_nil (List.splitOnP_ne_nil p cs)
      simp [hc, ← ih, hsplit]

theorem filter_intercalate {p : Char → Bool} {x : Char} (hx : p x = false) (ws : List (List Char)) :
    ([x].intercalate ws).filter p = ws.flatten.filter p := by
  match ws with
  | [] => rfl
  | [w] => simp
  | w :: v :: ws =>
    rw [List.intercalate_cons_cons, List.filter_append, List.filter_append, filter_intercalate hx (v :: ws),
      List.flatten_cons, List.filter_append]
    simp [hx]

/-- The brackets stay in their order. -/
theorem filter_caselessChars {p : Char → Bool} (hp : ∀ b, p b = true → isBracket b = true) (cs : List Char) :
    (caselessChars cs).filter p = cs.filter p := by
  have hupper : (upperChars cs).filter p = cs.filter p := by
    induction cs with
    | nil => rfl
    | cons c cs ih =>
      rw [upperChars] at ih ⊢
      rw [List.flatMap_cons, List.filter_append, ih]
      cases hc : p c with
      | true => simp [upperChar_bracket (hp c hc), hc]
      | false =>
        have hnone : (upperChar c).filter p = [] := by
          refine List.filter_eq_nil_iff.mpr fun b hb hpb => ?_
          rw [bracket_of_mem_upperChar (hp b hpb) hb, hpb] at hc
          cases hc
        simp [hnone, hc]
  have hspace : p ' ' = false := Bool.eq_false_iff.mpr fun h => by cases hp ' ' h
  rw [caselessChars, collapseChars, filter_intercalate hspace, words, List.flatten_filter_not_isEmpty, flatten_splitOnP,
    List.filter_filter, ← hupper]
  refine List.filter_congr fun c _ => ?_
  cases hc : p c with
  | true => simp [isBlank_of_isBracket (hp c hc)]
  | false => rfl

theorem bracket_prefix_upperChars_iff {b : Char} (hb : isBracket b = true) (cs : List Char) :
    [b] <+: upperChars cs ↔ [b] <+: cs := by
  cases cs with
  | nil => rfl
  | cons c cs =>
    obtain ⟨x, xs, hupper⟩ := List.exists_cons_of_ne_nil (upperChar_ne_nil c)
    have hsame : b = x ↔ b = c := by
      constructor
      · rintro rfl
        exact (bracket_of_mem_upperChar hb (c := c) (by simp [hupper])).symm
      · rintro rfl
        rw [upperChar_bracket hb] at hupper
        exact (List.cons.inj hupper).1
    rw [upperChars, List.flatMap_cons, hupper, List.cons_append, List.cons_prefix_cons, List.cons_prefix_cons, hsame]
    simp

theorem infix_upperChars_iff (cs : List Char) : ['[', ']'] <:+: upperChars cs ↔ ['[', ']'] <:+: cs := by
  induction cs with
  | nil => rfl
  | cons c cs ih =>
    have hcons : upperChars (c :: cs) = upperChar c ++ upperChars cs := List.flatMap_cons
    rw [hcons, List.infix_cons_iff]
    by_cases hc : c = '['
    · rw [hc, upperChar_bracket rfl, List.singleton_append, List.infix_cons_iff, List.cons_prefix_cons,
        List.cons_prefix_cons, bracket_prefix_upperChars_iff rfl]
      exact or_congr_right ih
    · have hnot : '[' ∉ upperChar c := fun h => hc (bracket_of_mem_upperChar rfl h)
      have hfirst : ¬ ['[', ']'] <+: c :: cs := fun h => hc (List.cons_prefix_cons.mp h).1.symm
      rw [infix_append_iff_of_notMem hnot, or_iff_right hfirst]
      exact ih

theorem infix_caselessChars_iff (cs : List Char) : ['[', ']'] <:+: caselessChars cs ↔ ['[', ']'] <:+: cs := by
  rw [caselessChars, collapseChars, infix_intercalate_iff (by simp) (by decide), ← infix_upperChars_iff cs,
    infix_iff_exists_mem_splitOnP (p := isBlank) (by simp) (by decide)]
  constructor
  · rintro ⟨w, hw, hwithin⟩
    exact ⟨w, (List.mem_filter.mp hw).1, hwithin⟩
  · rintro ⟨w, hw, hwithin⟩
    refine ⟨w, List.mem_filter.mpr ⟨hw, ?_⟩, hwithin⟩
    cases w with
    | nil => simpa using hwithin.length_le
    | cons => rfl

theorem notMem_of_mem_splitOn {x : Char} {l cs : List Char} (h : l ∈ cs.splitOn x) : x ∉ l := by
  intro hx
  simpa using (mem_of_mem_splitOnP h x hx).2

end Text

namespace ColumnType

/-! ### Parameters -/

/-- No opening parenthesis stands in front of a closing one. -/
def NoParameter (cs : List Char) : Prop := cs.Pairwise fun b c => ¬ (b = '(' ∧ c = ')')

/-- The line has an opening parenthesis behind its last closing one. -/
def LeavesOpening (l : List Char) : Prop := ∃ after, '(' :: after <:+ l ∧ ')' ∉ after

/-- The line has two closing parentheses without an opening one between them, where its start counts as closing. -/
def LeavesClosing (l : List Char) : Prop := ∃ inner, ')' :: (inner ++ [')']) <:+: ')' :: l ∧ '(' ∉ inner

theorem exists_of_toClosing?_eq_some {cs : List Char} {n : Nat} (h : toClosing? cs = some n) :
    ∃ inner rest, cs = inner ++ ')' :: rest ∧ n = inner.length + 1 ∧ ')' ∉ inner ∧ '\n' ∉ inner := by
  induction cs generalizing n with
  | nil => cases h
  | cons c cs ih =>
    rw [toClosing?] at h
    split at h
    · next hc =>
      obtain rfl := beq_iff_eq.mp hc
      cases h
      exact ⟨[], cs, rfl, rfl, List.not_mem_nil, List.not_mem_nil⟩
    · next hc =>
      split at h
      · cases h
      · next hline =>
        obtain ⟨m, hm, rfl⟩ := Option.map_eq_some_iff.mp h
        obtain ⟨inner, rest, rfl, rfl, hclosing, hnewline⟩ := ih hm
        rw [beq_iff_eq] at hc hline
        exact ⟨c :: inner, rest, rfl, rfl, by simp [hclosing, Ne.symm hc], by simp [hnewline, Ne.symm hline]⟩

theorem toClosing?_append {inner : List Char} (hclosing : ')' ∉ inner) (hnewline : '\n' ∉ inner) (rest : List Char) :
    toClosing? (inner ++ ')' :: rest) = some (inner.length + 1) := by
  induction inner with
  | nil => rfl
  | cons c inner ih =>
    rw [List.mem_cons, not_or] at hclosing hnewline
    have hc : (c == ')') = false := beq_eq_false_iff_ne.mpr (Ne.symm hclosing.1)
    have hline : (c == '\n') = false := beq_eq_false_iff_ne.mpr (Ne.symm hnewline.1)
    rw [List.cons_append, toClosing?, hc, hline, ih hclosing.2 hnewline.2]
    rfl

theorem toClosing?_append_newline {l : List Char} (h : toClosing? l = none) (rest : List Char) :
    toClosing? (l ++ '\n' :: rest) = none := by
  induction l with
  | nil => rfl
  | cons c l ih =>
    rw [toClosing?] at h
    rw [List.cons_append, toClosing?]
    split at h
    · cases h
    · next hc =>
      rw [if_neg hc]
      split at h
      · next hline => rw [if_pos hline]
      · next hline => rw [if_neg hline, ih (Option.map_eq_none_iff.mp h), Option.map_none]

theorem closing_notMem {l : List Char} (hline : '\n' ∉ l) (h : toClosing? l = none) : ')' ∉ l := by
  intro hmem
  obtain ⟨inner, rest, rfl, hinner⟩ := List.eq_append_cons_of_mem hmem
  rw [toClosing?_append hinner fun hnewline => hline (List.mem_append_left _ hnewline)] at h
  cases h

/-- A character that opens no parameter stays. -/
theorem dropParameters_keep {c : Char} {cs : List Char} (h : c = '(' → toClosing? cs = none) :
    dropParameters 0 (c :: cs) = c :: dropParameters 0 cs := by
  rw [dropParameters]
  by_cases hc : c = '('
  · rw [if_pos (beq_iff_eq.mpr hc), h hc]
  · rw [if_neg (by simpa using hc)]

/-- A parameter goes. -/
theorem dropParameters_part {inner : List Char} (hclosing : ')' ∉ inner) (hnewline : '\n' ∉ inner) (cs : List Char) :
    dropParameters 0 ('(' :: (inner ++ ')' :: cs)) = dropParameters 0 cs := by
  have hskip (skipped : List Char) : dropParameters skipped.length (skipped ++ cs) = dropParameters 0 cs := by
    induction skipped with
    | nil => rfl
    | cons c skipped ih => rw [List.length_cons, List.cons_append, dropParameters, ih]
  have hpart := hskip (inner ++ [')'])
  rw [List.append_assoc, List.singleton_append, List.length_append, List.length_singleton] at hpart
  rw [dropParameters, toClosing?_append hclosing hnewline]
  exact hpart

/-- The first parameter goes. -/
theorem dropParameters_append {front inner : List Char} (hfront : '(' ∉ front) (hclosing : ')' ∉ inner)
    (hnewline : '\n' ∉ inner) (cs : List Char) :
    dropParameters 0 (front ++ '(' :: (inner ++ ')' :: cs)) = front ++ dropParameters 0 cs := by
  induction front with
  | nil => exact dropParameters_part hclosing hnewline cs
  | cons c front ih =>
    rw [List.mem_cons, not_or] at hfront
    rw [List.cons_append, dropParameters_keep fun hc => (hfront.1 hc.symm).elim, ih hfront.2, List.cons_append]

/-- A text together with what is left of it without parameters. -/
theorem dropParameters_induct {P : List Char → List Char → Prop} (nil : P [] [])
    (keep : ∀ c cs, (c = '(' → toClosing? cs = none) → P cs (dropParameters 0 cs) →
      P (c :: cs) (c :: dropParameters 0 cs))
    (part : ∀ inner cs, ')' ∉ inner → '\n' ∉ inner → P cs (dropParameters 0 cs) →
      P ('(' :: (inner ++ ')' :: cs)) (dropParameters 0 cs))
    (cs : List Char) : P cs (dropParameters 0 cs) := by
  match cs with
  | [] => exact nil
  | c :: cs =>
    by_cases hopens : c = '(' → toClosing? cs = none
    · rw [dropParameters_keep hopens]
      exact keep c cs hopens (dropParameters_induct nil keep part cs)
    · obtain ⟨rfl, hsome⟩ := Classical.not_imp.mp hopens
      obtain ⟨n, hn⟩ := Option.ne_none_iff_exists'.mp hsome
      obtain ⟨inner, rest, rfl, -, hclosing, hnewline⟩ := exists_of_toClosing?_eq_some hn
      rw [dropParameters_part hclosing hnewline]
      exact part inner rest hclosing hnewline (dropParameters_induct nil keep part rest)
termination_by cs.length

theorem dropParameters_sublist (cs : List Char) : (dropParameters 0 cs).Sublist cs := by
  refine dropParameters_induct (P := fun cs left => left.Sublist cs) .slnil (fun c _ _ ih => ih.cons_cons c) ?_ cs
  intro inner cs _ _ ih
  have hsuffix : cs <:+ '(' :: (inner ++ ')' :: cs) := ⟨'(' :: (inner ++ [')']), by simp⟩
  exact ih.trans hsuffix.sublist

theorem dropParameters_newline (l cs : List Char) :
    dropParameters 0 (l ++ '\n' :: cs) = dropParameters 0 l ++ '\n' :: dropParameters 0 cs := by
  refine dropParameters_induct (P := fun l left => dropParameters 0 (l ++ '\n' :: cs) = left ++ '\n' :: dropParameters 0 cs)
    (dropParameters_keep nofun) ?_ ?_ l
  · intro c l hopens ih
    rw [List.cons_append, dropParameters_keep fun hc => toClosing?_append_newline (hopens hc) cs, ih, List.cons_append]
  · intro inner l hclosing hnewline ih
    rw [List.cons_append, List.append_assoc, List.cons_append, dropParameters_part hclosing hnewline, ih]

/-- The parameters are left out line by line. -/
theorem dropParameters_intercalate (ls : List (List Char)) :
    dropParameters 0 (['\n'].intercalate ls) = ['\n'].intercalate (ls.map (dropParameters 0)) := by
  match ls with
  | [] => rfl
  | [l] => simp
  | l :: m :: ls =>
    have ih := dropParameters_intercalate (m :: ls)
    rw [List.map_cons] at ih
    rw [List.intercalate_cons_cons, List.map_cons, List.map_cons, List.intercalate_cons_cons, List.append_assoc,
      List.append_assoc, List.singleton_append, dropParameters_newline, ih]
    rfl

/-! ### Lines -/

theorem noParameter_line {l : List Char} (hline : '\n' ∉ l) : NoParameter (dropParameters 0 l) := by
  refine dropParameters_induct (P := fun l left => '\n' ∉ l → NoParameter left) (fun _ => .nil) ?_ ?_ l hline
  · intro c l hopens ih hline
    rw [List.mem_cons, not_or] at hline
    refine List.pairwise_cons.mpr ⟨?_, ih hline.2⟩
    rintro b hb ⟨rfl, rfl⟩
    exact closing_notMem hline.2 (hopens rfl) ((dropParameters_sublist l).subset hb)
  · intro inner l _ _ ih hline
    exact ih fun hmem => hline (by simp [hmem])

theorem leavesOpening_cons_iff {c : Char} (hc : c ≠ '(') {l : List Char} :
    LeavesOpening (c :: l) ↔ LeavesOpening l := by
  simp [LeavesOpening, List.suffix_cons_iff, Ne.symm hc]

theorem leavesOpening_append_iff (before : List Char) {l : List Char} :
    LeavesOpening (before ++ ')' :: l) ↔ LeavesOpening l := by
  constructor
  · rintro ⟨after, hsuffix, hafter⟩
    rcases List.suffix_or_suffix_of_suffix hsuffix (List.suffix_append before (')' :: l)) with h | h
    · rcases List.suffix_cons_iff.mp h with heq | h
      · cases heq
      · exact ⟨after, h, hafter⟩
    · exact (hafter (List.mem_of_ne_of_mem (by decide) (h.subset List.mem_cons_self))).elim
  · rintro ⟨after, hsuffix, hafter⟩
    exact ⟨after, hsuffix.trans ((List.suffix_cons ')' l).trans (List.suffix_append before _)), hafter⟩

theorem opening_mem_iff {l : List Char} (hline : '\n' ∉ l) : '(' ∈ dropParameters 0 l ↔ LeavesOpening l := by
  refine dropParameters_induct (P := fun l left => '\n' ∉ l → ('(' ∈ left ↔ LeavesOpening l)) ?_ ?_ ?_ l hline
  · intro _
    simp [LeavesOpening]
  · intro c l hopens ih hline
    rw [List.mem_cons, not_or] at hline
    by_cases hc : c = '('
    · rw [hc]
      exact iff_of_true List.mem_cons_self ⟨l, List.suffix_refl _, closing_notMem hline.2 (hopens hc)⟩
    · rw [leavesOpening_cons_iff hc, ← ih hline.2, List.mem_cons]
      simp [Ne.symm hc]
  · intro inner l _ _ ih hline
    rw [ih fun hmem => hline (by simp [hmem]), ← List.cons_append, leavesOpening_append_iff]

theorem leavesClosing_cons_iff {c : Char} (hopening : c ≠ '(') (hclosing : c ≠ ')') {l : List Char} :
    LeavesClosing (c :: l) ↔ LeavesClosing l := by
  constructor
  · rintro ⟨inner, hwithin, hinner⟩
    rcases List.infix_cons_iff.mp hwithin with h | h
    · cases inner with
      | nil => exact (hclosing (List.cons_prefix_cons.mp (List.cons_prefix_cons.mp h).2).1.symm).elim
      | cons i inner =>
        have hrest : ')' :: (inner ++ [')']) <+: ')' :: l :=
          List.cons_prefix_cons.mpr ⟨rfl, (List.cons_prefix_cons.mp (List.cons_prefix_cons.mp h).2).2⟩
        exact ⟨inner, hrest.isInfix, List.not_mem_of_not_mem_cons hinner⟩
    · rcases List.infix_cons_iff.mp h with h | h
      · exact (hclosing (List.cons_prefix_cons.mp h).1.symm).elim
      · exact ⟨inner, List.infix_cons h, hinner⟩
  · rintro ⟨inner, hwithin, hinner⟩
    rcases List.infix_cons_iff.mp hwithin with h | h
    · have hmore : ')' :: (c :: inner ++ [')']) <+: ')' :: c :: l :=
        List.cons_prefix_cons.mpr ⟨rfl, List.cons_prefix_cons.mpr ⟨rfl, (List.cons_prefix_cons.mp h).2⟩⟩
      exact ⟨c :: inner, hmore.isInfix, List.not_mem_cons_of_ne_of_not_mem (Ne.symm hopening) hinner⟩
    · exact ⟨inner, List.infix_cons (List.infix_cons h), hinner⟩

/-- An opening parenthesis keeps the closing one in front of it from the next one behind it. -/
theorem leavesClosing_opening_append_iff {part : List Char} (hpart : ')' ∉ part) {l : List Char} :
    LeavesClosing ('(' :: (part ++ l)) ↔ ∃ inner, ')' :: (inner ++ [')']) <:+: l ∧ '(' ∉ inner := by
  refine exists_congr fun inner => and_congr_left fun hinner => ?_
  have hfirst : ¬ ')' :: (inner ++ [')']) <+: ')' :: '(' :: (part ++ l) := by
    cases inner with
    | nil => simp
    | cons i inner => simp [(List.ne_of_not_mem_cons hinner).symm]
  have hnot : ')' ∉ '(' :: part := List.not_mem_cons_of_ne_of_not_mem (by decide) hpart
  rw [List.infix_cons_iff, or_iff_right hfirst, ← List.cons_append]
  exact Text.infix_append_iff_of_notMem hnot

theorem closing_mem_iff {l : List Char} (hline : '\n' ∉ l) : ')' ∈ dropParameters 0 l ↔ LeavesClosing l := by
  refine dropParameters_induct (P := fun l left => '\n' ∉ l → (')' ∈ left ↔ LeavesClosing l)) ?_ ?_ ?_ l hline
  · intro _
    simp [LeavesClosing, List.infix_cons_iff]
  · intro c l hopens ih hline
    rw [List.mem_cons, not_or] at hline
    by_cases hopening : c = '('
    · have hnone : ')' ∉ l := closing_notMem hline.2 (hopens hopening)
      have hleft : ')' ∉ dropParameters 0 l := fun h => hnone ((dropParameters_sublist l).subset h)
      have hempty := leavesClosing_opening_append_iff hnone (l := [])
      rw [List.append_nil] at hempty
      rw [hopening, hempty]
      simp [hleft]
    · by_cases hclosing : c = ')'
      · rw [hclosing]
        exact iff_of_true List.mem_cons_self ⟨[], (List.prefix_append [')', ')'] l).isInfix, List.not_mem_nil⟩
      · rw [leavesClosing_cons_iff hopening hclosing, ← ih hline.2, List.mem_cons]
        simp [Ne.symm hclosing]
  · intro part l hpart _ ih hline
    rw [ih fun hmem => hline (by simp [hmem]), leavesClosing_opening_append_iff hpart]
    rfl

/-- Whether parameters are left over depends on the parentheses only. -/
theorem noParameter_congr {p : Char → Bool} (hopening : p '(' = true) (hclosing : p ')' = true) {as bs : List Char}
    (h : as.filter p = bs.filter p) : NoParameter as ↔ NoParameter bs := by
  have hfilter (cs : List Char) : NoParameter (cs.filter p) ↔ NoParameter cs := by
    rw [NoParameter, List.pairwise_filter]
    refine ⟨List.Pairwise.imp fun hbc => ?_, List.Pairwise.imp fun hbc _ _ => hbc⟩
    rintro ⟨rfl, rfl⟩
    exact hbc hopening hclosing ⟨rfl, rfl⟩
  rw [← hfilter as, h, hfilter bs]

/-- A parameter is left over exactly if it starts in one line and ends in a later one. -/
theorem noParameter_dropParameters_iff (cs : List Char) : NoParameter (dropParameters 0 cs) ↔
    (cs.splitOn '\n').Pairwise fun l m => ¬ (LeavesOpening l ∧ LeavesClosing m) := by
  have hlines : dropParameters 0 cs = ['\n'].intercalate ((cs.splitOn '\n').map (dropParameters 0)) := by
    rw [← dropParameters_intercalate, List.intercalate_splitOn]
  have hline {l : List Char} (hl : l ∈ cs.splitOn '\n') : '\n' ∉ l := Text.notMem_of_mem_splitOn hl
  have hwithin : ∀ l ∈ (cs.splitOn '\n').map (dropParameters 0), NoParameter l := by
    intro left hleft
    obtain ⟨l, hl, rfl⟩ := List.mem_map.mp hleft
    exact noParameter_line (hline hl)
  have hflat := noParameter_congr (p := fun c => c == '(' || c == ')') rfl rfl
    (Text.filter_intercalate (x := '\n') rfl ((cs.splitOn '\n').map (dropParameters 0)))
  rw [hlines, hflat, NoParameter, List.pairwise_flatten, List.pairwise_map]
  refine (and_iff_right hwithin).trans ?_
  refine List.Pairwise.iff_of_mem fun {l m} hl hm => ?_
  rw [← opening_mem_iff (hline hl), ← closing_mem_iff (hline hm)]
  constructor
  · exact fun h ⟨hopening, hclosing⟩ => h _ hopening _ hclosing ⟨rfl, rfl⟩
  · rintro h b hb c hc ⟨rfl, rfl⟩
    exact h ⟨hb, hc⟩

theorem dropParameters_eq_self_of_noParameter {cs : List Char} (h : NoParameter cs) : dropParameters 0 cs = cs := by
  induction cs with
  | nil => rfl
  | cons c cs ih =>
    obtain ⟨hfirst, hrest⟩ := List.pairwise_cons.mp h
    have hopens : c = '(' → toClosing? cs = none := by
      intro hc
      refine Option.eq_none_iff_forall_not_mem.mpr fun n hn => ?_
      obtain ⟨inner, rest, rfl, -⟩ := exists_of_toClosing?_eq_some hn
      exact hfirst ')' (by simp) ⟨hc, rfl⟩
    rw [dropParameters_keep hopens, ih hrest]

/-! ### Array bounds -/

/-- So many array bounds in a row. -/
def bounds (n : Nat) : List Char := (List.replicate n ['[', ']']).flatten

/-- There are array bounds between the two brackets of an array bound. -/
def NestsBounds (cs : List Char) : Prop := ∃ n, '[' :: (bounds (n + 1) ++ [']']) <:+: cs

def dropBounds (cs : List Char) : List Char := Text.replaceFrom ['[', ']'] [] 0 cs

theorem dropBounds_keep {c : Char} {cs : List Char} (h : ¬ ['[', ']'] <+: c :: cs) :
    dropBounds (c :: cs) = c :: dropBounds cs := by
  rw [dropBounds, Text.replaceFrom, if_neg (Text.startsWith_iff.not.mpr h)]
  rfl

theorem dropBounds_pair (cs : List Char) : dropBounds ('[' :: ']' :: cs) = dropBounds cs := by
  have hstart : Text.startsWith ['[', ']'] ('[' :: ']' :: cs) = true :=
    Text.startsWith_iff.mpr (List.prefix_append ['[', ']'] cs)
  rw [dropBounds, Text.replaceFrom, if_pos hstart]
  rfl

/-- A text together with what is left of it without array bounds. -/
theorem dropBounds_induct {P : List Char → List Char → Prop} (nil : P [] [])
    (keep : ∀ c cs, ¬ ['[', ']'] <+: c :: cs → P cs (dropBounds cs) → P (c :: cs) (c :: dropBounds cs))
    (pair : ∀ cs, P cs (dropBounds cs) → P ('[' :: ']' :: cs) (dropBounds cs)) (cs : List Char) :
    P cs (dropBounds cs) := by
  match cs with
  | [] => exact nil
  | c :: cs =>
    by_cases hpair : ['[', ']'] <+: c :: cs
    · obtain ⟨rest, hrest⟩ := hpair
      rw [← hrest, List.cons_append, List.singleton_append, dropBounds_pair]
      have hlength : rest.length + 2 = cs.length + 1 := by simpa using congrArg List.length hrest
      exact pair rest (dropBounds_induct nil keep pair rest)
    · rw [dropBounds_keep hpair]
      exact keep c cs hpair (dropBounds_induct nil keep pair cs)
termination_by cs.length

theorem filter_dropBounds {p : Char → Bool} (hopening : p '[' = false) (hclosing : p ']' = false) (cs : List Char) :
    (dropBounds cs).filter p = cs.filter p := by
  refine dropBounds_induct (P := fun cs left => left.filter p = cs.filter p) rfl ?_ ?_ cs
  · intro c cs _ ih
    rw [List.filter_cons, List.filter_cons, ih]
  · intro cs ih
    simp [hopening, hclosing, ih]

theorem dropBounds_eq_self {cs : List Char} (h : ¬ ['[', ']'] <:+: cs) : dropBounds cs = cs := by
  induction cs with
  | nil => rfl
  | cons c cs ih =>
    rw [List.infix_cons_iff, not_or] at h
    rw [dropBounds_keep h.1, ih h.2]

theorem dropBounds_sublist (cs : List Char) : (dropBounds cs).Sublist cs :=
  dropBounds_induct (P := fun cs left => left.Sublist cs) .slnil (fun c _ _ ih => ih.cons_cons c)
    (fun _ ih => (ih.cons ']').cons '[') cs

/-- Each bound that goes takes an opening bracket with it. -/
theorem filter_dropBounds_ne {cs : List Char} (h : ['[', ']'] <:+: cs) :
    (dropBounds cs).filter (· == '[') ≠ cs.filter (· == '[') := by
  refine dropBounds_induct (P := fun cs left => ['[', ']'] <:+: cs → left.filter (· == '[') ≠ cs.filter (· == '['))
    ?_ ?_ ?_ cs h
  · intro h
    simp at h
  · intro c cs hfirst ih h heq
    rw [List.infix_cons_iff, or_iff_right hfirst] at h
    rw [List.filter_cons, List.filter_cons] at heq
    split at heq
    · exact ih h (List.cons.inj heq).2
    · exact ih h heq
  · intro cs _ _ heq
    have hlength := ((dropBounds_sublist cs).filter (· == '[')).length_le
    have hmore : (('[' :: ']' :: cs).filter (· == '[')).length = (cs.filter (· == '[')).length + 1 := by simp
    rw [heq] at hlength
    omega

theorem closing_prefix_dropBounds_iff (cs : List Char) :
    [']'] <+: dropBounds cs ↔ ∃ n, bounds n ++ [']'] <+: cs := by
  refine dropBounds_induct (P := fun cs left => [']'] <+: left ↔ ∃ n, bounds n ++ [']'] <+: cs) ?_ ?_ ?_ cs
  · simp
  · intro c cs hfirst _
    constructor
    · intro h
      exact ⟨0, List.cons_prefix_cons.mpr ⟨(List.cons_prefix_cons.mp h).1, List.nil_prefix⟩⟩
    · rintro ⟨_ | n, h⟩
      · exact List.cons_prefix_cons.mpr ⟨(List.cons_prefix_cons.mp h).1, List.nil_prefix⟩
      · exact (hfirst ((List.prefix_append ['[', ']'] (bounds n ++ [']'])).trans h)).elim
  · intro cs ih
    rw [ih]
    constructor
    · rintro ⟨n, h⟩
      exact ⟨n + 1, List.cons_prefix_cons.mpr ⟨rfl, List.cons_prefix_cons.mpr ⟨rfl, h⟩⟩⟩
    · rintro ⟨_ | n, h⟩
      · cases (List.cons_prefix_cons.mp h).1
      · exact ⟨n, (List.cons_prefix_cons.mp (List.cons_prefix_cons.mp h).2).2⟩

theorem nestsBounds_cons_iff {c : Char} {cs : List Char} :
    NestsBounds (c :: cs) ↔ ('[' = c ∧ ∃ n, bounds (n + 1) ++ [']'] <+: cs) ∨ NestsBounds cs := by
  simp only [NestsBounds, List.infix_cons_iff, List.cons_prefix_cons, exists_or, exists_and_left]

/-- A bound is left over exactly if there were bounds within it. -/
theorem infix_dropBounds_iff (cs : List Char) : ['[', ']'] <:+: dropBounds cs ↔ NestsBounds cs := by
  refine dropBounds_induct (P := fun cs left => ['[', ']'] <:+: left ↔ NestsBounds cs) ?_ ?_ ?_ cs
  · simp [NestsBounds]
  · intro c cs hfirst ih
    have hnested : '[' = c → ((∃ n, bounds n ++ [']'] <+: cs) ↔ ∃ n, bounds (n + 1) ++ [']'] <+: cs) := by
      rintro rfl
      refine ⟨?_, fun ⟨n, h⟩ => ⟨n + 1, h⟩⟩
      rintro ⟨_ | n, h⟩
      · exact (hfirst (List.cons_prefix_cons.mpr ⟨rfl, h⟩)).elim
      · exact ⟨n, h⟩
    rw [List.infix_cons_iff, List.cons_prefix_cons, closing_prefix_dropBounds_iff, and_congr_right hnested,
      nestsBounds_cons_iff, ih]
  · intro cs ih
    have hfirst : ¬ ∃ n, bounds (n + 1) ++ [']'] <+: ']' :: cs := by
      rintro ⟨n, h⟩
      cases (List.cons_prefix_cons.mp h).1
    rw [ih, nestsBounds_cons_iff, nestsBounds_cons_iff]
    simp [hfirst]

/-! ### Normal form -/

theorem normalChars_eq (cs : List Char) : normalChars cs = Text.caselessChars (dropBounds (dropParameters 0 cs)) := rfl

theorem newline_notMem_normalChars (cs : List Char) : '\n' ∉ normalChars cs := by
  intro h
  rcases Text.mem_intercalate h with hspace | ⟨w, hw, hmem⟩
  · cases hspace
  · cases ((Text.word_of_mem_words hw).2 '\n' hmem).2

theorem noParameter_normalChars_iff (cs : List Char) : NoParameter (normalChars cs) ↔ NoParameter (dropParameters 0 cs) := by
  have hparenthesis : ∀ b : Char, (b == '(' || b == ')') = true → Text.isBracket b = true := by
    intro b hb
    rw [Bool.or_eq_true, beq_iff_eq, beq_iff_eq] at hb
    rcases hb with rfl | rfl <;> rfl
  apply noParameter_congr (p := fun c => c == '(' || c == ')') rfl rfl
  rw [normalChars_eq, Text.filter_caselessChars hparenthesis, filter_dropBounds rfl rfl]

theorem infix_normalChars_iff (cs : List Char) :
    ['[', ']'] <:+: normalChars cs ↔ NestsBounds (dropParameters 0 cs) := by
  rw [normalChars_eq, Text.infix_caselessChars_iff, infix_dropBounds_iff]

/-- A normal form is its own one exactly if it has neither parameters nor array bounds. -/
theorem normalChars_normalChars_iff (cs : List Char) : normalChars (normalChars cs) = normalChars cs ↔
    NoParameter (normalChars cs) ∧ ¬ ['[', ']'] <:+: normalChars cs := by
  constructor
  · intro h
    have hparameter : NoParameter (normalChars cs) := by
      rw [← h, noParameter_normalChars_iff]
      exact noParameter_line (newline_notMem_normalChars cs)
    refine ⟨hparameter, fun hbounds => ?_⟩
    -- The bound that goes takes an opening bracket with it.
    have hopening := congrArg (List.filter (· == '[')) h
    rw [normalChars_eq (normalChars cs), Text.filter_caselessChars (fun b hb => by simp_all [Text.isBracket]),
      dropParameters_eq_self_of_noParameter hparameter] at hopening
    exact filter_dropBounds_ne hbounds hopening
  · rintro ⟨hparameter, hbounds⟩
    rw [normalChars_eq (normalChars cs), dropParameters_eq_self_of_noParameter hparameter,
      dropBounds_eq_self hbounds, normalChars_eq, Text.caselessChars_caselessChars]

/-! ### Types -/

theorem bracket_notMem_spellings : ∀ e ∈ spellings ++ countingSpellings, ∀ c ∈ e.1.toList, Text.isBracket c = false := by
  decide +kernel

/-- No type has a bracket in its spelling. -/
theorem ofNormalSpelling_of_bracket {s : String} {b : Char} (hb : Text.isBracket b = true) (h : b ∈ s.toList) :
    ofNormalSpelling s = varchar := by
  have hlookup {l : List (String × ColumnType)} {base : String} (hl : l ⊆ spellings ++ countingSpellings)
      (hbase : b ∈ base.toList) : l.lookup base = none := by
    refine Option.eq_none_iff_forall_not_mem.mpr fun t ht => ?_
    rw [bracket_notMem_spellings (base, t) (hl (mem_of_lookup ht)) b hbase] at hb
    cases hb
  have hendings : ∀ ending ∈ ["", " UNSIGNED"] ++ [" AUTO_INCREMENT"], b ∉ ending.toList := by
    rcases Text.isBracket_cases hb with rfl | rfl | rfl | rfl <;> decide
  have hcut {base ending : String} (hending : ending ∈ ["", " UNSIGNED"] ++ [" AUTO_INCREMENT"])
      (hmem : b ∈ (base ++ ending).toList) : b ∈ base.toList := by
    rw [String.toList_append, List.mem_append] at hmem
    exact hmem.resolve_right (hendings ending hending)
  obtain ⟨base, sign, hsign, ⟨rfl, htype⟩ | ⟨rfl, htype⟩⟩ := ofNormalSpelling_cases s
  · have hbase := hcut (List.mem_append_left _ hsign) h
    rw [htype, hlookup (List.subset_append_left _ _) hbase, Option.getD_none]
  · have hbase := hcut (List.mem_append_right _ (List.mem_singleton.mpr rfl)) (hcut (List.mem_append_left _ hsign) h)
    rw [htype, hlookup (List.subset_append_right _ _) hbase, hlookup (List.subset_append_left _ _) hbase,
      Option.or_none, Option.getD_none]

/-! ### The main result -/

/-- No parameter goes over the end of a line, and there are no array bounds in an array bound. -/
structure IsNormalizedAtOnce (s : String) : Prop where
  parameters : (s.toList.splitOn '\n').Pairwise fun l m => ¬ (LeavesOpening l ∧ LeavesClosing m)
  bounds : ¬ NestsBounds (dropParameters 0 s.toList)

theorem isNormalizedAtOnce_iff (s : String) : IsNormalizedAtOnce s ↔
    NoParameter (normalChars s.toList) ∧ ¬ ['[', ']'] <:+: normalChars s.toList := by
  rw [noParameter_normalChars_iff, noParameter_dropParameters_iff, infix_normalChars_iff]
  exact ⟨fun h => ⟨h.parameters, h.bounds⟩, fun h => ⟨h.1, h.2⟩⟩

/-- What one pass leaves for another one has brackets, which no type has. -/
theorem exists_bracket {s : String} (h : ¬ IsNormalizedAtOnce s) :
    ∃ b ∈ normalChars s.toList, Text.isBracket b = true := by
  rw [isNormalizedAtOnce_iff, not_and_or, not_not] at h
  rcases h with hparameter | hbounds
  · by_contra hnone
    refine hparameter (List.pairwise_of_forall_mem_list fun b hb _ _ => ?_)
    rintro ⟨rfl, -⟩
    exact hnone ⟨'(', hb, rfl⟩
  · exact ⟨'[', hbounds.subset List.mem_cons_self, rfl⟩

/-- One pass makes the normal form of exactly the spellings in which no parameter goes over the end of a line and no
array bound has bounds within it. The type of any other spelling is the default one, but that of its normal form need not
be. -/
theorem normalSpelling_normalSpelling_iff (s : String) :
    (normalSpelling (normalSpelling s) = normalSpelling s ↔ IsNormalizedAtOnce s) ∧
    (ofSpelling (normalSpelling s) = ofSpelling s ↔
      IsNormalizedAtOnce s ∨ ofSpelling (normalSpelling s) = varchar) := by
  have hform : normalSpelling (normalSpelling s) = normalSpelling s ↔ IsNormalizedAtOnce s := by
    rw [isNormalizedAtOnce_iff, ← normalChars_normalChars_iff, normalSpelling, normalSpelling, String.toList_ofList,
      String.ofList_inj]
  refine ⟨hform, ?_⟩
  by_cases honce : IsNormalizedAtOnce s
  · have htype : ofSpelling (normalSpelling s) = ofSpelling s := congrArg ofNormalSpelling (hform.mpr honce)
    exact iff_of_true htype (Or.inl honce)
  · obtain ⟨b, hmem, hb⟩ := exists_bracket honce
    have hvarchar : ofSpelling s = varchar := ofNormalSpelling_of_bracket hb (by rwa [normalSpelling, String.toList_ofList])
    rw [hvarchar, or_iff_right honce]

/-- The second pass leaves a parameter out that the first one has put into one line. -/
theorem lengthInTwoLines_normalized_twice :
    normalSpelling "INT(\n3)" = "INT( 3)" ∧ normalSpelling (normalSpelling "INT(\n3)") = "INT" ∧
    ofSpelling "INT(\n3)" = varchar ∧ ofSpelling (normalSpelling "INT(\n3)") = int := by
  decide +kernel

end ColumnType

end SchemaDesk

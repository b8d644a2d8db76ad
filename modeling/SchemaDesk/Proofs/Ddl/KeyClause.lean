import Mathlib.Data.List.Infix
import SchemaDesk.Proofs.Ddl.WrittenTable
import SchemaDesk.Proofs.Text.Occurrence
/-!
Where the clauses on keys, on null and on unique values stand in the text of a table: which row of the text has which of
them, and how often. The names and defaults of the table must not look like such clauses themselves.
-/

namespace SchemaDesk

open Text

/-! ### Clauses in texts -/

/-- The words that are counted. -/
def clauseWords : List (List Char) := ["PRIMARY KEY".toList, "NOT NULL".toList, "UNIQUE".toList]

/-- The text has no line end and none of the words of a clause. -/
def IsClauseFree (s : String) : Prop :=
  '\n' ∉ s.toList ∧ ∀ w ∈ ["PRIMARY", "UNIQUE", "NOT NULL"], ¬ w.toList <:+: s.toList

/-- The text does not go on with the second word of a clause. -/
def StartsFresh (cs : List Char) : Prop := ¬ "KEY".toList <+: cs ∧ ¬ "NULL".toList <+: cs

/-- The text does not end with the first word of a clause. -/
def EndsFresh (cs : List Char) : Prop := ¬ "PRIMARY".toList <:+ cs ∧ ¬ "NOT".toList <:+ cs

instance (cs : List Char) : Decidable (StartsFresh cs) := by
  unfold StartsFresh
  infer_instance

instance (cs : List Char) : Decidable (EndsFresh cs) := by
  unfold EndsFresh
  infer_instance

section Counting

variable {w as bs : List Char}

/-- No clause reaches over a blank unless it is cut there. -/
theorem occurrences_append_blank (hw : w ∈ clauseWords) (h : EndsFresh as ∨ StartsFresh bs) :
    occurrences w (as ++ ' ' :: bs) = occurrences w as + occurrences w bs := by
  simp only [clauseWords, List.mem_cons, List.not_mem_nil, or_false] at hw
  rcases hw with rfl | rfl | rfl
  · have hcut : ¬ ("PRIMARY".toList <:+ as ∧ "KEY".toList <+: bs) := fun hcut => h.elim (·.1 hcut.1) (·.1 hcut.2)
    have hpair := @occurrences_pair_append "PRIMARY".toList "KEY".toList (by decide) (by decide) as bs
    rwa [if_neg hcut] at hpair
  · have hcut : ¬ ("NOT".toList <:+ as ∧ "NULL".toList <+: bs) := fun hcut => h.elim (·.2 hcut.1) (·.2 hcut.2)
    have hpair := @occurrences_pair_append "NOT".toList "NULL".toList (by decide) (by decide) as bs
    rwa [if_neg hcut] at hpair
  · exact occurrences_append_cons (by decide) (by decide) as bs

theorem IsClauseFree.occurrences_eq_zero {s : String} (h : IsClauseFree s) (hw : w ∈ clauseWords) :
    occurrences w s.toList = 0 := by
  refine occurrences_eq_zero_iff.mpr fun hwithin => ?_
  have hparts : ∀ w ∈ clauseWords, ∃ v ∈ ["PRIMARY", "UNIQUE", "NOT NULL"], v.toList <:+: w := by decide
  obtain ⟨v, hv, hpart⟩ := hparts w hw
  exact h.2 v hv (hpart.trans hwithin)

theorem StartsFresh.append_blank (h : StartsFresh as) (bs : List Char) : StartsFresh (as ++ ' ' :: bs) :=
  ⟨(prefix_append_cons_iff (by decide) as bs).not.mpr h.1, (prefix_append_cons_iff (by decide) as bs).not.mpr h.2⟩

end Counting

namespace Column

theorem behindBlanks_cons (s : String) (ss : List String) :
    behindBlanks (s :: ss) = ' ' :: (s.toList ++ behindBlanks ss) := rfl

/-- Parts of a line that start afresh are counted one by one. -/
theorem occurrences_behindBlanks {w : List Char} (hw : w ∈ clauseWords) {ss : List String}
    (hss : ∀ s ∈ ss, StartsFresh s.toList) (as : List Char) : occurrences w (as ++ behindBlanks ss) =
      occurrences w as + (ss.map fun s => occurrences w s.toList).sum := by
  induction ss generalizing as with
  | nil => simp [behindBlanks]
  | cons s ss ih =>
    obtain ⟨hs, hss⟩ := List.forall_mem_cons.mp hss
    have hfresh : StartsFresh (s.toList ++ behindBlanks ss) := by
      cases ss with
      | nil => simpa [behindBlanks] using hs
      | cons t ss => exact hs.append_blank _
    rw [behindBlanks_cons, occurrences_append_blank hw (Or.inr hfresh), ih hss, List.map_cons, List.sum_cons]

/-! ### Types -/

theorem words_fresh (t : ColumnType) (d : Dialect) : 3 ≤ (t.words d).1.toList.length ∧
    ¬ "KEY".toList <+: (t.words d).1.toList ∧ ¬ "NUL".toList <+: (t.words d).1.toList ∧ '\n' ∉ (t.words d).1.toList ∧
    ∀ w ∈ clauseWords, occurrences w (t.words d).1.toList = 0 := by
  revert t
  exact ColumnType.forall_of_all (by cases d <;> decide +kernel)

/-- The characters of numbers in parentheses. -/
def isNumberChar (c : Char) : Bool := c.isDigit || c == '(' || c == ')' || c == ',' || c == '-'

theorem isNumberChar_of_mem_intText {n : Int} {c : Char} (h : c ∈ (Text.intText n).toList) : isNumberChar c = true := by
  have hdigits (m : Nat) (h : c ∈ (Text.natText m).toList) : isNumberChar c = true := by
    rw [Text.natText, String.toList_ofList] at h
    simp [isNumberChar, isDigit_of_mem_toDigits h]
  rw [Text.intText] at h
  split at h
  · rw [String.toList_append, List.mem_append] at h
    rcases h with h | h
    · obtain rfl : c = '-' := by simpa using h
      rfl
    · exact hdigits _ h
  · exact hdigits _ h

theorem isNumberChar_of_mem_numbersText {ns : List Int} {c : Char} (h : c ∈ (numbersText ns).toList) :
    isNumberChar c = true := by
  cases ns with
  | nil => cases h
  | cons n ns =>
    simp only [numbersText, String.toList_append, List.mem_append, String.toList_join, List.mem_flatMap, List.mem_map] at h
    rcases h with ((h | h) | ⟨s, ⟨m, -, rfl⟩, h⟩) | h
    · obtain rfl : c = '(' := by simpa using h
      rfl
    · exact isNumberChar_of_mem_intText h
    · rw [String.toList_append, List.mem_append] at h
      rcases h with h | h
      · obtain rfl : c = ',' := by simpa using h
        rfl
      · exact isNumberChar_of_mem_intText h
    · obtain rfl : c = ')' := by simpa using h
      rfl

variable {c : Column} {d : Dialect}

theorem startsFresh_typeText (c : Column) (d : Dialect) : StartsFresh (c.typeText d).toList := by
  obtain ⟨hlength, hkey, hnull, -⟩ := words_fresh c.type d
  have hword : (c.type.words d).1.toList <+: (c.typeText d).toList := by
    rw [typeText_eq, String.append_assoc, String.toList_append]
    exact List.prefix_append _ _
  have hthree {v : List Char} (hv : v.length = 3) (h : v <+: (c.typeText d).toList) : v <+: (c.type.words d).1.toList :=
    List.prefix_of_prefix_length_le h hword (hv ▸ hlength)
  refine ⟨fun h => hkey (hthree rfl h), fun h => hnull (hthree rfl (List.IsPrefix.trans ?_ h))⟩
  decide

theorem occurrences_typeText {w : List Char} (hw : w ∈ clauseWords) (c : Column) (d : Dialect) :
    occurrences w (c.typeText d).toList = 0 := by
  have hcut : ∀ w ∈ clauseWords, w ≠ [] ∧ '(' ∉ w ∧ w.all isNumberChar = false ∧
      occurrences w "AUTO_INCREMENT".toList = 0 := by decide
  obtain ⟨hne, hparenthesis, hletter, hcounts⟩ := hcut w hw
  obtain ⟨x, hx, hnumber⟩ := List.all_eq_false.mp hletter
  have hword := (words_fresh c.type d).2.2.2.2 w hw
  have hnumbers : occurrences w ((c.type.words d).1 ++ numbersText ((c.type.words d).2.numbers c)).toList = 0 := by
    rw [String.toList_append]
    cases hns : (c.type.words d).2.numbers c with
    | nil => rw [numbersText, String.toList_empty, List.append_nil, hword]
    | cons n ns =>
      obtain ⟨rest, hrest⟩ : ∃ rest, (numbersText (n :: ns)).toList = '(' :: rest := ⟨_, by simp [numbersText]; rfl⟩
      have hnone : x ∉ rest := by
        intro hmem
        have hnumbers : x ∈ (numbersText (n :: ns)).toList := hrest ▸ List.mem_cons_of_mem '(' hmem
        exact hnumber (isNumberChar_of_mem_numbersText hnumbers)
      rw [hrest, occurrences_append_cons hne hparenthesis, hword, occurrences_eq_zero_of_notMem hx hnone]
  rw [typeText_eq, String.toList_append]
  split
  · have hblank : " AUTO_INCREMENT".toList = ' ' :: "AUTO_INCREMENT".toList := rfl
    rw [hblank, occurrences_append_blank hw (Or.inr (by decide)), hnumbers, hcounts]
  · rw [String.toList_empty, List.append_nil, hnumbers]

theorem newline_notMem_typeText (c : Column) (d : Dialect) : '\n' ∉ (c.typeText d).toList := by
  intro h
  rw [typeText_eq, String.toList_append, String.toList_append, List.mem_append, List.mem_append] at h
  rcases h with (h | h) | h
  · exact (words_fresh c.type d).2.2.2.1 h
  · cases isNumberChar_of_mem_numbersText h
  · split at h <;> exact absurd h (by decide)

/-! ### Lines -/

/-- The texts of the column have no line end and none of the words of a clause. -/
structure IsClauseFree (c : Column) : Prop where
  name : SchemaDesk.IsClauseFree c.name
  default : ∀ s ∈ c.default, SchemaDesk.IsClauseFree s

/-- A clause has fixed words, or it is the default. -/
theorem clause_cases {k : Bool} {s : String} (hs : s ∈ c.clauses d k) :
    s ∈ ["PRIMARY KEY", "PRIMARY KEY AUTOINCREMENT", "NOT NULL", "UNIQUE"] ∨ ∃ x ∈ c.default, s = "DEFAULT " ++ x := by
  rw [clauses, List.mem_append, List.mem_append, List.mem_append] at hs
  rcases hs with ((hs | hs) | hs) | hs
  · have hkey : ∀ s ∈ c.keyClause d, s ∈ ["PRIMARY KEY", "PRIMARY KEY AUTOINCREMENT"] := by
      unfold keyClause
      cases d <;> cases c.type.isSerial <;> decide
    split at hs
    · exact Or.inl (List.mem_append_left ["NOT NULL", "UNIQUE"] (hkey s hs))
    · cases hs
  · split at hs
    · simp_all
    · cases hs
  · split at hs
    · simp_all
    · cases hs
  · cases hdefault : c.default with
    | none => simp [hdefault] at hs
    | some x =>
      rw [hdefault] at hs
      dsimp only at hs
      split at hs
      · cases hs
      · exact Or.inr ⟨x, rfl, List.mem_singleton.mp hs⟩

theorem toList_default (x : String) : ("DEFAULT " ++ x).toList = "DEFAULT".toList ++ ' ' :: x.toList := by
  simp

theorem startsFresh_clause {k : Bool} {s : String} (hs : s ∈ c.clauses d k) : StartsFresh s.toList := by
  have hfixed : ∀ s ∈ ["PRIMARY KEY", "PRIMARY KEY AUTOINCREMENT", "NOT NULL", "UNIQUE"], StartsFresh s.toList := by
    decide
  rcases clause_cases hs with hs | ⟨x, -, rfl⟩
  · exact hfixed s hs
  · rw [toList_default]
    exact StartsFresh.append_blank (by decide) x.toList

theorem line_eq (c : Column) (d : Dialect) (k : Bool) :
    (c.line d k).toList = (indent ++ c.name).toList ++ behindBlanks (c.typeText d :: c.clauses d k) := by
  rw [line, toList_intercalate_cons]
  rfl

theorem occurrences_line {w : List Char} (hw : w ∈ clauseWords) (hc : c.IsClauseFree) (d : Dialect) (k : Bool) :
    occurrences w (c.line d k).toList = ((c.clauses d k).map fun s => occurrences w s.toList).sum := by
  have hempty : occurrences w [] = 0 := occurrences_nil fun h => by subst h; revert hw; decide
  have hname : occurrences w (indent ++ c.name).toList = 0 := by
    have hindent : (indent ++ c.name).toList = [] ++ ' ' :: ([] ++ ' ' :: c.name.toList) := by simp [indent]
    rw [hindent, occurrences_append_blank hw (Or.inl (by decide)), occurrences_append_blank hw (Or.inl (by decide)),
      hempty, hc.name.occurrences_eq_zero hw]
  have hfresh : ∀ s ∈ c.typeText d :: c.clauses d k, StartsFresh s.toList :=
    List.forall_mem_cons.mpr ⟨startsFresh_typeText c d, fun s hs => startsFresh_clause hs⟩
  rw [line_eq, occurrences_behindBlanks hw hfresh, hname, List.map_cons, List.sum_cons, occurrences_typeText hw]
  omega

/-- The clauses that are counted. -/
theorem sum_clauses {w : List Char} (hw : w ∈ clauseWords) (hc : c.IsClauseFree) (d : Dialect) (k : Bool) :
    ((c.clauses d k).map fun s => occurrences w s.toList).sum =
      ((if c.primaryKey && !k then c.keyClause d else []).map fun s => occurrences w s.toList).sum +
      (if (!c.nullable && !c.primaryKey) || (c.primaryKey && k) then occurrences w "NOT NULL".toList else 0) +
      (if c.unique && !c.primaryKey then occurrences w "UNIQUE".toList else 0) := by
  have hdefault : ∀ x ∈ c.default, occurrences w ("DEFAULT " ++ x).toList = 0 := by
    have hword : ∀ w ∈ clauseWords, occurrences w "DEFAULT".toList = 0 := by decide
    intro x hx
    rw [toList_default, occurrences_append_blank hw (Or.inl (by decide)), hword w hw,
      (hc.default x hx).occurrences_eq_zero hw]
  rw [clauses, List.map_append, List.map_append, List.map_append, List.sum_append, List.sum_append, List.sum_append]
  refine (congrArg₂ (· + ·) ?front ?last).trans (Nat.add_zero _)
  case front =>
    congr 2
    · split <;> simp
    · split <;> simp
  case last =>
    split
    · rfl
    · next x hx =>
      split
      · rfl
      · rw [List.map_singleton, List.sum_singleton, hdefault x hx]

theorem occurrences_key_line (hc : c.IsClauseFree) (d : Dialect) (k : Bool) :
    occurrences "PRIMARY KEY".toList (c.line d k).toList =
      if c.primaryKey && !k && !(d == .postgresql && c.type.isSerial) then 1 else 0 := by
  have hw : "PRIMARY KEY".toList ∈ clauseWords := by decide
  have hclause : ((c.keyClause d).map fun s => occurrences "PRIMARY KEY".toList s.toList).sum =
      if !(d == .postgresql && c.type.isSerial) then 1 else 0 := by
    unfold keyClause
    cases d <;> cases c.type.isSerial <;> decide
  have hnull : occurrences "PRIMARY KEY".toList "NOT NULL".toList = 0 := by decide
  have hunique : occurrences "PRIMARY KEY".toList "UNIQUE".toList = 0 := by decide
  rw [occurrences_line hw hc, sum_clauses hw hc, hnull, hunique, ite_self, ite_self, Nat.add_zero]
  cases c.primaryKey && !k with
  | true => rw [if_pos rfl, hclause, Bool.true_and]
  | false => rfl

/-- The clause on the key has none of the words of the other clauses. -/
theorem sum_keyClause {w : List Char} (hw : w ∈ ["NOT NULL".toList, "UNIQUE".toList]) (c : Column) (d : Dialect) (b : Bool) :
    ((if b then c.keyClause d else []).map fun s => occurrences w s.toList).sum = 0 := by
  have hfixed : ∀ w ∈ ["NOT NULL".toList, "UNIQUE".toList], occurrences w "PRIMARY KEY".toList = 0 ∧
      occurrences w "PRIMARY KEY AUTOINCREMENT".toList = 0 := by decide
  obtain ⟨hplain, hcounts⟩ := hfixed w hw
  unfold keyClause
  cases b <;> cases d <;> cases c.type.isSerial <;>
    simp only [Bool.false_eq_true, if_true, if_false, List.map_nil, List.map_cons, List.sum_nil, List.sum_cons, hplain,
      hcounts, Nat.add_zero]

theorem occurrences_null_line (hc : c.IsClauseFree) (d : Dialect) (k : Bool) :
    occurrences "NOT NULL".toList (c.line d k).toList =
      if (!c.nullable && !c.primaryKey) || (c.primaryKey && k) then 1 else 0 := by
  have hw : "NOT NULL".toList ∈ clauseWords := by decide
  have hnull : occurrences "NOT NULL".toList "NOT NULL".toList = 1 := by decide
  have hunique : occurrences "NOT NULL".toList "UNIQUE".toList = 0 := by decide
  rw [occurrences_line hw hc, sum_clauses hw hc, sum_keyClause (by decide), hnull, hunique, ite_self, Nat.zero_add,
    Nat.add_zero]

theorem occurrences_unique_line (hc : c.IsClauseFree) (d : Dialect) (k : Bool) :
    occurrences "UNIQUE".toList (c.line d k).toList = if c.unique && !c.primaryKey then 1 else 0 := by
  have hw : "UNIQUE".toList ∈ clauseWords := by decide
  have hnull : occurrences "UNIQUE".toList "NOT NULL".toList = 0 := by decide
  have hunique : occurrences "UNIQUE".toList "UNIQUE".toList = 1 := by decide
  rw [occurrences_line hw hc, sum_clauses hw hc, sum_keyClause (by decide), hnull, hunique, ite_self, Nat.zero_add]

theorem newline_notMem_line (hc : c.IsClauseFree) (d : Dialect) (k : Bool) : '\n' ∉ (c.line d k).toList := by
  have hindent : '\n' ∉ (indent ++ c.name).toList := by
    rw [String.toList_append, List.mem_append, not_or]
    exact ⟨by decide, hc.name.1⟩
  have hclause : ∀ s ∈ c.clauses d k, '\n' ∉ s.toList := by
    intro s hs
    have hfixed : ∀ s ∈ ["PRIMARY KEY", "PRIMARY KEY AUTOINCREMENT", "NOT NULL", "UNIQUE"], '\n' ∉ s.toList := by decide
    rcases clause_cases hs with hs | ⟨x, hx, rfl⟩
    · exact hfixed s hs
    · rw [String.toList_append, List.mem_append, not_or]
      exact ⟨by decide, (hc.default x hx).1⟩
  have hparts : ∀ s ∈ c.typeText d :: c.clauses d k, '\n' ∉ s.toList :=
    List.forall_mem_cons.mpr ⟨newline_notMem_typeText c d, hclause⟩
  rw [line_eq, List.mem_append, not_or]
  refine ⟨hindent, fun h => ?_⟩
  obtain ⟨s, hs, hmem⟩ := List.mem_flatMap.mp h
  exact hparts s hs (List.mem_of_ne_of_mem (by decide) hmem)

end Column

namespace Table

variable {t : Table} {d : Dialect}

/-! ### Rows -/

/-- The rows of the text of a table. -/
def rows (t : Table) (d : Dialect) : List (List Char) := (t.script d).toList.splitOn '\n'

/-- All names and defaults of the table are free of line ends and of the words of a clause. -/
structure IsClauseFree (t : Table) : Prop where
  name : SchemaDesk.IsClauseFree t.name
  columns : ∀ c ∈ t.columns, c.IsClauseFree

/-- The rows of lines between which there is a comma. -/
def rowsOf : List (List Char) → List (List Char)
  | [] => [[]]
  | [l] => [l]
  | l :: m :: ls => (l ++ [',']) :: rowsOf (m :: ls)

theorem rowsOf_concat (ls : List (List Char)) (l : List Char) : rowsOf (ls ++ [l]) = ls.map (· ++ [',']) ++ [l] := by
  induction ls with
  | nil => rfl
  | cons m ls ih =>
    cases ls with
    | nil => rfl
    | cons n ls => rw [List.cons_append, List.cons_append, rowsOf, ← List.cons_append, ih]; rfl

/-- Each line has its row, maybe with a comma behind it. -/
theorem forall₂_rowsOf {ls : List (List Char)} (hne : ls ≠ []) :
    List.Forall₂ (fun l row => row = l ∨ row = l ++ [',']) ls (rowsOf ls) := by
  match ls with
  | [l] => exact .cons (Or.inl rfl) .nil
  | l :: m :: ls => exact .cons (Or.inr rfl) (forall₂_rowsOf (List.cons_ne_nil m ls))

theorem splitOn_lines {ls : List (List Char)} (h : ∀ l ∈ ls, '\n' ∉ l) :
    (",\n".toList.intercalate ls).splitOn '\n' = rowsOf ls := by
  have hline {l : List Char} (hl : '\n' ∉ l) : ∀ c ∈ l, (c == '\n') = false := fun c hc =>
    beq_eq_false_iff_ne.mpr fun heq => hl (heq ▸ hc)
  induction ls with
  | nil => rfl
  | cons l ls ih =>
    obtain ⟨hl, hls⟩ := List.forall_mem_cons.mp h
    rw [List.splitOn_eq_splitOnP] at ih ⊢
    cases ls with
    | nil => rw [List.intercalate_singleton, List.splitOnP_eq_singleton (hline hl), rowsOf]
    | cons m ls =>
      have hcomma : '\n' ∉ l ++ [','] := by simpa using hl
      have hcut : ",\n".toList.intercalate (l :: m :: ls) =
          (l ++ [',']) ++ '\n' :: ",\n".toList.intercalate (m :: ls) := by
        rw [List.intercalate_cons_cons]
        simp
      rw [hcut, List.splitOnP_append_cons_of_forall_mem (hline hcomma) '\n' rfl, ih hls, rowsOf]

/-! ### The line for the key -/

/-- The key has a line of its own: one of several columns, and in PostgreSQL one that counts up. -/
def listsKey (t : Table) (d : Dialect) : Prop :=
  1 < t.keyColumns.length ∨ (d = .postgresql ∧ ∃ c, t.keyColumns = [c] ∧ c.type.isSerial = true)

theorem keyColumns_cases (t : Table) :
    t.keyColumns = [] ∨ (∃ c, t.keyColumns = [c]) ∨ 1 < t.keyColumns.length := by
  rw [← List.length_eq_zero_iff, ← List.length_eq_one_iff]
  omega

theorem keyLines_of_listsKey (h : t.listsKey d) : t.keyLines d = [keyLine (t.keyColumns.map (·.name))] := by
  unfold keyLines hasCompositeKey
  rcases h with hseveral | ⟨rfl, c, hc, hserial⟩
  · rw [if_pos (decide_eq_true hseveral)]
  · simp [hc, hserial]

theorem keyLines_eq_nil (h : ¬ t.listsKey d) : t.keyLines d = [] := by
  rw [listsKey, not_or] at h
  unfold keyLines hasCompositeKey
  rw [if_neg (by simpa using h.1)]
  cases d with
  | mysql | sqlite => rfl
  | postgresql =>
    rcases t.keyColumns_cases with hnil | ⟨c, hc⟩ | hseveral
    · rw [hnil]
      rfl
    · have hserial : c.type.isSerial = false := Bool.eq_false_iff.mpr fun hserial => h.2 ⟨rfl, c, hc, hserial⟩
      simp [hc, hserial]
    · exact (h.1 hseveral).elim

theorem not_infix_names {w : List Char} (hne : w ≠ []) (hcomma : ',' ∉ w) (hblank : ' ' ∉ w) {ls : List (List Char)}
    (h : ∀ l ∈ ls, ¬ w <:+: l) : ¬ w <:+: ", ".toList.intercalate ls := by
  induction ls with
  | nil => simpa using hne
  | cons l ls ih =>
    obtain ⟨hl, hls⟩ := List.forall_mem_cons.mp h
    cases ls with
    | nil => simpa using hl
    | cons m ls =>
      have hcut : ", ".toList.intercalate (l :: m :: ls) = l ++ ',' :: ([] ++ ' ' :: ", ".toList.intercalate (m :: ls)) := by
        rw [List.intercalate_cons_cons]
        simp
      rw [hcut, infix_append_cons_iff hne hcomma, infix_append_cons_iff hne hblank]
      simpa [hl, hne] using ih hls

theorem toList_keyLine_eq (names : List String) : (keyLine names).toList =
    "  PRIMARY KEY ".toList ++ '(' :: (", ".toList.intercalate (names.map String.toList) ++ [')']) := by
  simp [keyLine, indent, String.toList_intercalate]

theorem occurrences_keyLine {names : List String} (h : ∀ s ∈ names, SchemaDesk.IsClauseFree s) :
    occurrences "PRIMARY KEY".toList (keyLine names).toList = 1 := by
  have hnames : ¬ "PRIMARY".toList <:+: ", ".toList.intercalate (names.map String.toList) :=
    not_infix_names (by decide) (by decide) (by decide) (List.forall_mem_map.mpr fun s hs => (h s hs).2 "PRIMARY" (by simp))
  have hrest : occurrences "PRIMARY KEY".toList (", ".toList.intercalate (names.map String.toList) ++ [')']) = 0 := by
    refine occurrences_eq_zero_iff.mpr fun hwithin => ?_
    have hword : "PRIMARY".toList <:+: "PRIMARY KEY".toList := by decide
    rcases (infix_append_cons_iff (by decide) (by decide)).mp (hword.trans hwithin) with hmem | hmem
    · exact hnames hmem
    · exact absurd hmem (by decide)
  rw [toList_keyLine_eq, occurrences_append_cons (by decide) (by decide), hrest]
  decide

theorem newline_notMem_keyLine {names : List String} (h : ∀ s ∈ names, SchemaDesk.IsClauseFree s) :
    '\n' ∉ (keyLine names).toList := by
  have hnames : ¬ ['\n'] <:+: ", ".toList.intercalate (names.map String.toList) := by
    refine not_infix_names (by decide) (by decide) (by decide) (List.forall_mem_map.mpr fun s hs hwithin => ?_)
    exact (h s hs).1 ((List.singleton_infix_iff ..).mp hwithin)
  rw [List.singleton_infix_iff] at hnames
  rw [toList_keyLine_eq]
  simpa using hnames

/-! ### All rows -/

theorem name_of_keyColumns (ht : t.IsClauseFree) : ∀ s ∈ t.keyColumns.map (·.name), SchemaDesk.IsClauseFree s :=
  List.forall_mem_map.mpr fun c hc => (ht.columns c (List.mem_filter.mp hc).1).name

theorem newline_notMem_bodyLines (ht : t.IsClauseFree) (d : Dialect) : ∀ l ∈ t.bodyLines d, '\n' ∉ l.toList := by
  rw [bodyLines, List.forall_mem_append, List.forall_mem_map]
  refine ⟨fun c hc => Column.newline_notMem_line (ht.columns c hc) d _, ?_⟩
  by_cases hkey : t.listsKey d
  · rw [keyLines_of_listsKey hkey, List.forall_mem_singleton]
    exact newline_notMem_keyLine (name_of_keyColumns ht)
  · rw [keyLines_eq_nil hkey]
    exact List.forall_mem_nil _

theorem rows_eq (ht : t.IsClauseFree) (d : Dialect) : t.rows d =
    ("CREATE TABLE " ++ t.name ++ " (").toList :: (rowsOf ((t.bodyLines d).map String.toList) ++ [");".toList]) := by
  have hheader : ∀ c ∈ ("CREATE TABLE " ++ t.name ++ " (").toList, (c == '\n') = false := by
    have hfixed : '\n' ∉ "CREATE TABLE ".toList ∧ '\n' ∉ " (".toList := by decide
    intro c hc
    rw [beq_eq_false_iff_ne]
    rintro rfl
    rw [String.toList_append, String.toList_append, List.mem_append, List.mem_append] at hc
    rcases hc with (hc | hc) | hc
    · exact hfixed.1 hc
    · exact ht.name.1 hc
    · exact hfixed.2 hc
  have hscript : (t.script d).toList = ("CREATE TABLE " ++ t.name ++ " (").toList ++
      '\n' :: (",\n".toList.intercalate ((t.bodyLines d).map String.toList) ++ '\n' :: ");".toList) := by
    have hopen : " (\n".toList = " (".toList ++ ['\n'] := rfl
    have hclose : "\n);".toList = '\n' :: ");".toList := rfl
    have htext : t.script d =
        "CREATE TABLE " ++ t.name ++ " (\n" ++ ",\n".intercalate (t.bodyLines d) ++ "\n);" := rfl
    simp only [htext, String.toList_append, String.toList_intercalate, hopen, hclose, List.append_assoc,
      List.cons_append, List.nil_append]
  have hbody := splitOn_lines (List.forall_mem_map.mpr (newline_notMem_bodyLines ht d))
  rw [List.splitOn_eq_splitOnP] at hbody
  rw [rows, hscript, List.splitOn_eq_splitOnP, List.splitOnP_append_cons_of_forall_mem hheader '\n' rfl,
    List.splitOnP_append_cons _ _ rfl, hbody]
  rfl

/-- What the row of a column says. -/
structure RowStates (t : Table) (d : Dialect) (c : Column) (row : List Char) : Prop where
  name : (indent ++ c.name ++ " ").toList <+: row
  /-- The clause on the key stands here if this is its only column, but for one that PostgreSQL counts up. -/
  key : occurrences "PRIMARY KEY".toList row =
    if t.keyColumns = [c] ∧ ¬ (d = .postgresql ∧ c.type.isSerial = true) then 1 else 0
  listed : 1 < t.keyColumns.length → c.primaryKey = true → occurrences "NOT NULL".toList row = 1
  notNull : c.primaryKey = false → ("NOT NULL".toList <:+: row ↔ c.nullable = false)
  unique : c.primaryKey = false → ("UNIQUE".toList <:+: row ↔ c.unique = true)

/-- The rows of the text: a heading, one for each column, in some cases one for the key, and the end. A table without
columns has an empty row in their place. -/
structure AreRows (t : Table) (d : Dialect) (columnRows rest : List (List Char)) : Prop where
  rows : t.rows d = ("CREATE TABLE " ++ t.name ++ " (").toList :: (columnRows ++ rest ++ [");".toList])
  heading : occurrences "PRIMARY KEY".toList ("CREATE TABLE " ++ t.name ++ " (").toList = 0
  columns : List.Forall₂ (t.RowStates d) t.columns columnRows
  key : t.listsKey d →
    rest = [(indent ++ "PRIMARY KEY (" ++ ", ".intercalate (t.keyColumns.map (·.name)) ++ ")").toList]
  none : ¬ t.listsKey d → ∀ row ∈ rest, row = []

theorem keyColumns_eq_singleton_iff {c : Column} (hc : c ∈ t.columns) :
    t.keyColumns = [c] ↔ c.primaryKey = true ∧ t.hasCompositeKey = false := by
  have hmem : c ∈ t.keyColumns ↔ c.primaryKey = true := by
    rw [keyColumns, List.mem_filter]
    exact and_iff_right hc
  rw [hasCompositeKey, decide_eq_false_iff_not, ← hmem]
  constructor
  · intro h
    simp [h]
  · rintro ⟨hmem, hfew⟩
    rcases t.keyColumns_cases with hnil | ⟨x, hx⟩ | hseveral
    · rw [hnil] at hmem
      cases hmem
    · rw [hx, List.mem_singleton] at hmem
      rw [hx, hmem]
    · exact (hfew hseveral).elim

/-- A comma does not change what a row says. -/
theorem occurrences_row {w l row : List Char} (hw : w ∈ clauseWords) (hrow : row = l ∨ row = l ++ [',']) :
    occurrences w row = occurrences w l := by
  have hcut : ∀ w ∈ clauseWords, w ≠ [] ∧ ',' ∉ w := by decide
  obtain ⟨hne, hcomma⟩ := hcut w hw
  rcases hrow with rfl | rfl
  · rfl
  · rw [occurrences_append_cons hne hcomma, occurrences_nil hne, Nat.add_zero]

theorem rowStates {c : Column} (ht : t.IsClauseFree) (hc : c ∈ t.columns) {row : List Char}
    (hrow : row = (c.line d t.hasCompositeKey).toList ∨ row = (c.line d t.hasCompositeKey).toList ++ [',']) :
    t.RowStates d c row := by
  have hfree := ht.columns c hc
  have hkey : occurrences "PRIMARY KEY".toList row = _ :=
    (occurrences_row (by decide) hrow).trans (Column.occurrences_key_line hfree d _)
  have hnull : occurrences "NOT NULL".toList row = _ :=
    (occurrences_row (by decide) hrow).trans (Column.occurrences_null_line hfree d _)
  have hunique : occurrences "UNIQUE".toList row = _ :=
    (occurrences_row (by decide) hrow).trans (Column.occurrences_unique_line hfree d _)
  refine ⟨?_, ?_, fun hseveral hprimary => ?_, fun hplain => ?_, fun hplain => ?_⟩
  · have hline : (indent ++ c.name ++ " ").toList <+: (c.line d t.hasCompositeKey).toList := by
      rw [Column.line_eq, Column.behindBlanks_cons]
      exact ⟨_, by simp; rfl⟩
    rcases hrow with rfl | rfl
    · exact hline
    · exact hline.trans (List.prefix_append _ _)
  · rw [hkey]
    refine if_congr (Iff.trans ?_ (and_congr_left' (keyColumns_eq_singleton_iff hc).symm)) rfl rfl
    simp [imp_iff_not_or]
  · have hcomposite : t.hasCompositeKey = true := decide_eq_true hseveral
    rw [hnull, hprimary, hcomposite, Bool.true_and, Bool.or_true, if_pos rfl]
  · rw [← occurrences_pos_iff, hnull, hplain]
    cases c.nullable <;> simp
  · rw [← occurrences_pos_iff, hunique, hplain]
    cases c.unique <;> simp

theorem occurrences_heading (ht : t.IsClauseFree) :
    occurrences "PRIMARY KEY".toList ("CREATE TABLE " ++ t.name ++ " (").toList = 0 := by
  have hcut : ("CREATE TABLE " ++ t.name ++ " (").toList =
      "CREATE TABLE".toList ++ ' ' :: (t.name.toList ++ ' ' :: ['(']) := by
    simp
  have hw : "PRIMARY KEY".toList ∈ clauseWords := by decide
  rw [hcut, occurrences_append_blank hw (Or.inl (by decide)), occurrences_append_blank hw (Or.inr (by decide)),
    ht.name.occurrences_eq_zero hw]
  decide

theorem forall₂_rowStates (ht : t.IsClauseFree) {columnRows : List (List Char)}
    (h : List.Forall₂ (fun l row => row = l ∨ row = l ++ [','])
      (t.columns.map fun c => (c.line d t.hasCompositeKey).toList) columnRows) :
    List.Forall₂ (t.RowStates d) t.columns columnRows := by
  rw [List.forall₂_map_left_iff] at h
  have hmem := (List.forall₂_and_left (p := (· ∈ t.columns)) t.columns columnRows).mpr ⟨fun c hc => hc, h⟩
  exact hmem.imp fun c row hrow => rowStates ht hrow.1 hrow.2

theorem exists_rows (ht : t.IsClauseFree) (d : Dialect) : ∃ columnRows rest, t.AreRows d columnRows rest := by
  have hheading := occurrences_heading ht
  have hcolumns {columnRows : List (List Char)} := @forall₂_rowStates t d ht columnRows
  have hbody : (t.bodyLines d).map String.toList =
      (t.columns.map fun c => (c.line d t.hasCompositeKey).toList) ++ (t.keyLines d).map String.toList := by
    rw [bodyLines, List.map_append, List.map_map]
    rfl
  have hrows := rows_eq ht d
  rw [hbody] at hrows
  generalize (t.columns.map fun c => (c.line d t.hasCompositeKey).toList) = lines at hcolumns hrows
  by_cases hkey : t.listsKey d
  · rw [keyLines_of_listsKey hkey, List.map_singleton, rowsOf_concat] at hrows
    refine ⟨lines.map (· ++ [',']), _, hrows, hheading, hcolumns ?_, fun _ => rfl, fun hnot => (hnot hkey).elim⟩
    rw [List.forall₂_map_right_iff, List.forall₂_same]
    exact fun l _ => Or.inr rfl
  · rw [keyLines_eq_nil hkey, List.map_nil, List.append_nil] at hrows
    by_cases hlines : lines = []
    · rw [hlines] at hrows hcolumns
      refine ⟨[], [[]], hrows, hheading, hcolumns .nil, fun h => (hkey h).elim, fun _ row hrow => ?_⟩
      exact List.mem_singleton.mp hrow
    · rw [← List.append_nil (rowsOf lines)] at hrows
      exact ⟨rowsOf lines, [], hrows, hheading, hcolumns (forall₂_rowsOf hlines), fun h => (hkey h).elim,
        fun _ => List.forall_mem_nil _⟩

/-- Rows with at most one clause are counted like their columns. -/
theorem sum_eq_countP {p : Column → Bool} {w : List Char} {cs : List Column} {rows : List (List Char)}
    (h : List.Forall₂ (fun c row => occurrences w row = if p c then 1 else 0) cs rows) :
    (rows.map (occurrences w)).sum = cs.countP p := by
  induction h with
  | nil => rfl
  | cons hrow _ ih => rw [List.map_cons, List.sum_cons, List.countP_cons, ih, hrow, Nat.add_comm]

/-- The row of a column has the clause on the key if there is no line for it. -/
theorem states_key_iff {c : Column} (hc : c ∈ t.columns) :
    (t.keyColumns = [c] ∧ ¬ (d = .postgresql ∧ c.type.isSerial = true)) ↔ c.primaryKey = true ∧ ¬ t.listsKey d := by
  rw [listsKey]
  constructor
  · rintro ⟨hsole, hinline⟩
    refine ⟨((keyColumns_eq_singleton_iff hc).mp hsole).1, ?_⟩
    rintro (hseveral | ⟨hd, x, hx, hserial⟩)
    · rw [hsole] at hseveral
      simp at hseveral
    · rw [hsole, List.cons.injEq] at hx
      exact hinline ⟨hd, hx.1 ▸ hserial⟩
  · rintro ⟨hprimary, hinline⟩
    rw [not_or] at hinline
    have hsole : t.keyColumns = [c] :=
      (keyColumns_eq_singleton_iff hc).mpr ⟨hprimary, decide_eq_false hinline.1⟩
    exact ⟨hsole, fun hserial => hinline.2 ⟨hserial.1, c, hsole, hserial.2⟩⟩

open Classical in
theorem sum_columnRows {columnRows : List (List Char)} (h : List.Forall₂ (t.RowStates d) t.columns columnRows) :
    (columnRows.map (occurrences "PRIMARY KEY".toList)).sum = if t.listsKey d then 0 else t.keyColumns.length := by
  have hmem := (List.forall₂_and_left (p := (· ∈ t.columns)) t.columns columnRows).mpr ⟨fun c hc => hc, h⟩
  have hcount : List.Forall₂ (fun c row => occurrences "PRIMARY KEY".toList row =
      if decide (c.primaryKey = true ∧ ¬ t.listsKey d) then 1 else 0) t.columns columnRows := by
    refine hmem.imp fun c row hrow => hrow.2.key.trans (if_congr ?_ rfl rfl)
    rw [decide_eq_true_iff]
    exact states_key_iff hrow.1
  rw [sum_eq_countP hcount]
  by_cases hkey : t.listsKey d
  · simp [hkey]
  · simp [hkey, keyColumns, List.countP_eq_length_filter]

/-- There is one clause on the key, if there is a key. -/
theorem occurrences_key_script (ht : t.IsClauseFree) (d : Dialect) :
    occurrences "PRIMARY KEY".toList (t.script d).toList = if t.keyColumns = [] then 0 else 1 := by
  obtain ⟨columnRows, rest, h⟩ := exists_rows ht d
  have hrows : (t.script d).toList.splitOn '\n' = _ := h.rows
  have hend : occurrences "PRIMARY KEY".toList ");".toList = 0 := by decide
  have htotal : occurrences "PRIMARY KEY".toList (t.script d).toList =
      (columnRows.map (occurrences "PRIMARY KEY".toList)).sum + (rest.map (occurrences "PRIMARY KEY".toList)).sum := by
    rw [occurrences_eq_sum (by decide) (x := '\n') (by decide), hrows]
    simp only [List.map_cons, List.map_append, List.map_nil, List.sum_cons, List.sum_append, List.sum_nil, h.heading,
      hend, Nat.zero_add, Nat.add_zero]
  rw [htotal, sum_columnRows h.columns]
  by_cases hkey : t.listsKey d
  · have hline : rest = [(keyLine (t.keyColumns.map (·.name))).toList] := h.key hkey
    have hne : t.keyColumns ≠ [] := by
      rintro hnil
      rcases hkey with hseveral | ⟨-, c, hc, -⟩
      · simp [hnil] at hseveral
      · simp [hnil] at hc
    rw [if_pos hkey, if_neg hne, hline, List.map_singleton, List.sum_singleton,
      occurrences_keyLine (name_of_keyColumns ht)]
  · have hrest : (rest.map (occurrences "PRIMARY KEY".toList)).sum = 0 := by
      refine List.sum_eq_zero_iff_forall_eq_nat.mpr (List.forall_mem_map.mpr fun row hrow => ?_)
      rw [h.none hkey row hrow]
      rfl
    rw [if_neg hkey, hrest]
    rcases t.keyColumns_cases with hnil | ⟨c, hc⟩ | hseveral
    · simp [hnil]
    · simp [hc]
    · exact (hkey (Or.inl hseveral)).elim

/-! ### The main result -/

/-- The text of a table has one clause on its key, in the row of its only column or in a line behind all columns, and
the row of every other column tells whether it may be null and whether it is unique. -/
theorem statesKey_script (t : Table) (d : Dialect) (ht : t.IsClauseFree) :
    occurrences "PRIMARY KEY".toList (t.script d).toList = (if t.keyColumns = [] then 0 else 1) ∧
    ∃ columnRows rest, t.AreRows d columnRows rest :=
  ⟨occurrences_key_script ht d, exists_rows ht d⟩

/-- A table whose key PostgreSQL writes into a line of its own. -/
theorem statesKey_users :
    let users : Table :=
      { id := .named "t"
        name := "users"
        columns := [
          { id := .named "a", name := "id", type := .serial, primaryKey := true, nullable := false, unique := true },
          { id := .named "b", name := "NOT", nullable := false, default := some "'KEY'" }] }
    users.IsClauseFree ∧
    occurrences "PRIMARY KEY".toList (users.script .postgresql).toList = (if users.keyColumns = [] then 0 else 1) ∧
    ∃ columnRows rest, users.AreRows .postgresql columnRows rest := by
  intro users
  have hfree : users.IsClauseFree := by
    refine ⟨?_, ?_⟩
    · unfold SchemaDesk.IsClauseFree
      decide
    · intro c hc
      simp only [users, List.mem_cons, List.not_mem_nil, or_false] at hc
      rcases hc with rfl | rfl <;> constructor <;> unfold SchemaDesk.IsClauseFree <;> decide
  exact ⟨hfree, statesKey_script users .postgresql hfree⟩

end Table

end SchemaDesk

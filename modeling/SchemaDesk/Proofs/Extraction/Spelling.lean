import SchemaDesk.Extraction
import SchemaDesk.Proofs.Text.Upper
/-!
Types by their spellings. The type of a spelling without brackets does not depend on its letter case and spaces, and a
spelling of an integer type never mentions a serial one.
-/

namespace SchemaDesk.ColumnType

/-! ### Normal form -/

/-- There are no parameters and no array bounds in the text. -/
def IsPlain (s : String) : Prop := '(' ∉ s.toList ∧ '[' ∉ s.toList

instance (s : String) : Decidable (IsPlain s) := by
  unfold IsPlain
  infer_instance

theorem dropParameters_eq_self {cs : List Char} (h : '(' ∉ cs) : dropParameters 0 cs = cs := by
  induction cs with
  | nil => rfl
  | cons c cs ih =>
    have hc : (c == '(') = false := beq_eq_false_iff_ne.mpr (List.ne_of_not_mem_cons h).symm
    rw [dropParameters, hc, ih (List.not_mem_of_not_mem_cons h)]
    rfl

theorem replaceFrom_brackets_eq_self {cs : List Char} (h : '[' ∉ cs) : Text.replaceFrom ['[', ']'] [] 0 cs = cs := by
  induction cs with
  | nil => rfl
  | cons c cs ih =>
    have hstart : Text.startsWith ['[', ']'] (c :: cs) = false := by
      simp [Text.startsWith, Text.dropStart?, List.ne_of_not_mem_cons h]
    rw [Text.replaceFrom, hstart, ih (List.not_mem_of_not_mem_cons h)]
    rfl

theorem normalSpelling_eq {s : String} (h : IsPlain s) : normalSpelling s = Text.collapse (Text.upper s) := by
  rw [normalSpelling, normalChars, dropParameters_eq_self h.1, replaceFrom_brackets_eq_self h.2, Text.collapse,
    Text.upper, String.toList_ofList]

theorem collapse_upper (s : String) : Text.collapse (Text.upper s) = String.ofList (Text.caselessChars s.toList) := by
  rw [Text.collapse, Text.upper, String.toList_ofList, Text.caselessChars]

theorem isPlain_caseless {s : String} (h : IsPlain s) : IsPlain (Text.collapse (Text.upper s)) := by
  rw [collapse_upper, IsPlain, String.toList_ofList]
  exact ⟨fun hmem => h.1 (Text.bracket_of_mem_caselessChars rfl hmem),
    fun hmem => h.2 (Text.bracket_of_mem_caselessChars rfl hmem)⟩

theorem caseless_caseless (s : String) :
    Text.collapse (Text.upper (Text.collapse (Text.upper s))) = Text.collapse (Text.upper s) := by
  rw [collapse_upper, collapse_upper, String.toList_ofList, Text.caselessChars_caselessChars]

/-- The normal form of a text in upper case with single spaces is the text. -/
theorem normalSpelling_caseless {s : String} (h : IsPlain s) :
    normalSpelling (Text.collapse (Text.upper s)) = Text.collapse (Text.upper s) := by
  rw [normalSpelling_eq (isPlain_caseless h), caseless_caseless]

theorem ofSpelling_caseless {s : String} (h : IsPlain s) :
    ofSpelling (Text.collapse (Text.upper s)) = ofSpelling s := by
  rw [ofSpelling, ofSpelling, normalSpelling_caseless h, normalSpelling_eq h]

/-! ### Integers that count up -/

theorem eq_append_of_dropStart? {p cs ds : List Char} (h : Text.dropStart? p cs = some ds) : cs = p ++ ds := by
  induction p generalizing cs with
  | nil => exact Option.some.inj h
  | cons x p ih =>
    cases cs with
    | nil => cases h
    | cons c cs =>
      rw [Text.dropStart?] at h
      split at h
      · next hx => rw [hx, ih h, List.cons_append]
      · cases h

theorem eq_append_of_dropEnd? {p cs ds : List Char} (h : Text.dropEnd? p cs = some ds) : cs = ds ++ p := by
  obtain ⟨es, hes, rfl⟩ := Option.map_eq_some_iff.mp h
  have hreverse := congrArg List.reverse (eq_append_of_dropStart? hes)
  rwa [List.reverse_reverse, List.reverse_append, List.reverse_reverse] at hreverse

theorem ofList_eq_append {p s : String} {cs : List Char} (h : Text.dropEnd? p.toList s.toList = some cs) :
    s = String.ofList cs ++ p := by
  rw [← String.toList_inj, String.toList_append, String.toList_ofList]
  exact eq_append_of_dropEnd? h

theorem withoutSuffix_cases (p s : String) : s = withoutSuffix p s ∨ s = withoutSuffix p s ++ p := by
  rw [withoutSuffix]
  split
  · next cs hcs => exact Or.inr (ofList_eq_append hcs)
  · exact Or.inl rfl

theorem mem_of_lookup {l : List (String × ColumnType)} {s : String} {t : ColumnType} (h : l.lookup s = some t) :
    (s, t) ∈ l := by
  obtain ⟨before, after, rfl, -⟩ := List.lookup_eq_some_iff.mp h
  simp

/-- A spelling in normal form is a base with up to two endings, and its type is that of the base. -/
theorem ofNormalSpelling_cases (s : String) : ∃ base, ∃ sign ∈ ["", " UNSIGNED"],
    (s = base ++ sign ∧ ofNormalSpelling s = (spellings.lookup base).getD varchar) ∨
    (s = base ++ " AUTO_INCREMENT" ++ sign ∧
      ofNormalSpelling s = ((countingSpellings.lookup base).or (spellings.lookup base)).getD varchar) := by
  have hsign : ∃ sign ∈ ["", " UNSIGNED"], s = withoutSuffix " UNSIGNED" s ++ sign := by
    rcases withoutSuffix_cases " UNSIGNED" s with hs | hs
    · exact ⟨"", by simp, by rw [String.append_empty]; exact hs⟩
    · exact ⟨" UNSIGNED", by simp, hs⟩
  obtain ⟨sign, hsign, hs⟩ := hsign
  rw [ofNormalSpelling]
  generalize withoutSuffix " UNSIGNED" s = r at hs ⊢
  dsimp only
  split
  · next cs hcs => exact ⟨String.ofList cs, sign, hsign, Or.inr ⟨by rw [← ofList_eq_append hcs, ← hs], rfl⟩⟩
  · exact ⟨r, sign, hsign, Or.inl ⟨hs, rfl⟩⟩

/-- An integer type is spelled by a word of the list, with or without two endings. -/
theorem exists_spelling_of_serialOf? {s : String} (h : (ofNormalSpelling s).serialOf?.isSome) :
    ∃ e ∈ spellings, e.2.serialOf?.isSome ∧
      ∃ counting ∈ ["", " AUTO_INCREMENT"], ∃ sign ∈ ["", " UNSIGNED"], s = e.1 ++ counting ++ sign := by
  have hmem {b : String} (hb : ((spellings.lookup b).getD varchar).serialOf?.isSome) :
      ∃ e ∈ spellings, e.2.serialOf?.isSome ∧ e.1 = b := by
    cases hlookup : spellings.lookup b with
    | none => rw [hlookup] at hb; cases hb
    | some t => exact ⟨(b, t), mem_of_lookup hlookup, by simpa [hlookup] using hb, rfl⟩
  obtain ⟨base, sign, hsign, ⟨hs, htype⟩ | ⟨hs, htype⟩⟩ := ofNormalSpelling_cases s
  · rw [htype] at h
    obtain ⟨e, he, hinteger, rfl⟩ := hmem h
    exact ⟨e, he, hinteger, "", by simp, sign, hsign, by rw [String.append_empty]; exact hs⟩
  · have hbase : ((spellings.lookup base).getD varchar).serialOf?.isSome := by
      cases hcounting : countingSpellings.lookup base with
      | none => rwa [htype, hcounting, Option.none_or] at h
      | some t =>
        have hserial : ∀ e ∈ countingSpellings, e.2.serialOf?.isSome = false := by decide
        have hnone := hserial _ (mem_of_lookup hcounting)
        rw [htype, hcounting, Option.some_or, Option.getD_some, hnone] at h
        cases h
    obtain ⟨e, he, hinteger, rfl⟩ := hmem hbase
    exact ⟨e, he, hinteger, " AUTO_INCREMENT", by simp, sign, hsign, hs⟩

theorem serial_notIn_spellings : ∀ e ∈ spellings, e.2.serialOf?.isSome →
    ∀ counting ∈ ["", " AUTO_INCREMENT"], ∀ sign ∈ ["", " UNSIGNED"],
      Text.hasWord (e.1 ++ counting ++ sign) "SERIAL" = false := by
  decide +kernel

/-- A text that mentions a serial type is not the spelling of an integer one. -/
theorem serialOf?_eq_none {s : String} (h : Text.hasWord s "SERIAL" = true) :
    (ofNormalSpelling s).serialOf? = none := by
  by_contra hne
  obtain ⟨e, he, hinteger, counting, hcounting, sign, hsign, rfl⟩ :=
    exists_spelling_of_serialOf? (Option.isSome_iff_ne_none.mpr hne)
  rw [serial_notIn_spellings e he hinteger counting hcounting sign hsign] at h
  cases h

end SchemaDesk.ColumnType

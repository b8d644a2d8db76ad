import Mathlib.Data.List.TakeDrop
import SchemaDesk.Proofs.Sql.TableStatement
import SchemaDesk.Proofs.Text.Search
import SchemaDesk.Proofs.Text.Upper
import SchemaDesk.Reading.Script
/-!
Where a statement on a table that could not be read is reported. What stands behind its keyword is looked for from the
start of the script, and its keyword from there backwards in the script in upper case. The report is on the start of
the statement exactly if both are found at the statement itself.
-/

namespace SchemaDesk.Sql

/-! ### Places in a script -/

/-- The place is that of the offset: its line is counted by the line feeds in front of the offset, and its column by
the characters behind the last of these. -/
def Location.IsOf (place : Location) (script : List Char) (offset : Nat) : Prop :=
  ∃ lines line, script.take offset = lines ++ line ∧ (∀ c ∈ lines.getLast?, c = '\n') ∧ '\n' ∉ line ∧
    place = ⟨lines.count '\n' + 1, line.length + 1⟩

namespace Command

variable {script : List Char} {place : Location} {i j : Nat}

theorem exists_lines (cs : List Char) :
    ∃ lines line, cs = lines ++ line ∧ (∀ c ∈ lines.getLast?, c = '\n') ∧ '\n' ∉ line := by
  refine ⟨(cs.reverse.dropWhile (· != '\n')).reverse, (cs.reverse.takeWhile (· != '\n')).reverse, ?_, ?_, ?_⟩
  · rw [← List.reverse_append, List.takeWhile_append_dropWhile, List.reverse_reverse]
  · intro c hc
    have hhead := List.head?_dropWhile_not (· != '\n') cs.reverse
    rw [List.getLast?_reverse, Option.mem_def] at hc
    rw [hc] at hhead
    simpa using hhead
  · intro hmem
    simpa using List.mem_takeWhile_imp (List.mem_reverse.mp hmem)

theorem location_of_lines {lines line : List Char} (htake : script.take i = lines ++ line)
    (hlines : ∀ c ∈ lines.getLast?, c = '\n') (hline : '\n' ∉ line) :
    location script i = ⟨lines.count '\n' + 1, line.length + 1⟩ := by
  have hrun : (line.reverse ++ lines.reverse).takeWhile (· != '\n') = line.reverse := by
    refine Text.takeWhile_run (fun c hc => bne_iff_ne.mpr ?_) fun c hc => ?_
    · rintro rfl
      exact hline (List.mem_reverse.mp hc)
    · rw [List.head?_reverse] at hc
      rw [hlines c hc]
      rfl
  simp only [location]
  rw [htake, List.reverse_append, hrun, List.length_reverse, ← List.count_eq_length_filter, List.count_append,
    List.count_eq_zero.mpr hline, Nat.add_zero]

theorem isOf_iff : place.IsOf script i ↔ place = location script i := by
  constructor
  · rintro ⟨lines, line, htake, hlines, hline, rfl⟩
    exact (location_of_lines htake hlines hline).symm
  · rintro rfl
    obtain ⟨lines, line, htake, hlines, hline⟩ := exists_lines (script.take i)
    exact ⟨lines, line, htake, hlines, hline, location_of_lines htake hlines hline⟩

/-- Further on in the script the line is another one or the column is greater. -/
theorem location_ne_of_lt (hlt : i < j) (hj : j ≤ script.length) : location script i ≠ location script j := by
  obtain ⟨lines, line, htake, hlines, hline⟩ := exists_lines (script.take i)
  let between := (script.drop i).take (j - i)
  have hbetween : script.take j = script.take i ++ between := by
    rw [← List.take_add, Nat.add_sub_cancel' (Nat.le_of_lt hlt)]
  have hlength : between.length = j - i := by
    rw [List.length_take, List.length_drop]
    omega
  intro heq
  by_cases hfeed : '\n' ∈ between
  · have hcount := congrArg Location.line heq
    simp only [location, ← List.count_eq_length_filter, hbetween, List.count_append] at hcount
    have hpos := List.count_pos_iff.mpr hfeed
    omega
  · rw [htake, List.append_assoc] at hbetween
    rw [location_of_lines htake hlines hline, location_of_lines hbetween hlines (by simp [hline, hfeed]),
      Location.mk.injEq, List.length_append] at heq
    omega

theorem location_inj (hi : i ≤ script.length) (hj : j ≤ script.length) :
    location script i = location script j ↔ i = j := by
  refine ⟨fun heq => ?_, congrArg _⟩
  rcases Nat.lt_trichotomy i j with hlt | heq' | hlt
  · exact (location_ne_of_lt hlt hj heq).elim
  · exact heq'
  · exact (location_ne_of_lt hlt hi heq.symm).elim

/-! ### Keywords -/

/-- The keyword of a statement on a table: it is a name without the letter `B`, which the word `TABLE` behind it has. -/
structure IsKeyword (keyword : List Char) : Prop where
  ne_nil : keyword ≠ []
  isNameChar : ∀ c ∈ keyword, Text.isNameChar c = true
  not_b : ∀ c ∈ keyword, Text.isLetter 'b' c = false

/-- The letters of the words `CREATE` and `ALTER` have no look-alikes. -/
theorem plain_letters : ∀ small ∈ ['c', 'r', 'e', 'a', 't', 'l'], small ∉ ['i', 's', 'k'] ∧
    ∀ c ∈ [small, small.toUpper], Text.isNameChar c = true ∧ Text.isLetter 'b' c = false ∧
      c.toUpper = small.toUpper := by
  decide

theorem isKeyword_of_spells {word : String} {keyword : List Char} (h : Text.Spells word keyword)
    (hne : word.toList ≠ []) (hplain : ∀ small ∈ word.toList, small ∈ ['c', 'r', 'e', 'a', 't', 'l']) :
    IsKeyword keyword ∧ Text.upperChars keyword = word.toList.map Char.toUpper := by
  have hletter {small c : Char} (hsmall : small ∈ word.toList) (hc : Text.isLetter small c = true) :
      Text.isNameChar c = true ∧ Text.isLetter 'b' c = false ∧ c.toUpper = small.toUpper := by
    obtain ⟨hlook, hcases⟩ := plain_letters small (hplain small hsmall)
    exact hcases c (List.mem_pair.mpr (Text.isLetter_cases hc hlook))
  rw [Text.Spells] at h
  have hmem {c : Char} (hc : c ∈ keyword) : ∃ small ∈ word.toList, Text.isLetter small c = true := by
    obtain ⟨i, hi, rfl⟩ := List.getElem_of_mem hc
    exact ⟨_, List.getElem_mem (h.length_eq ▸ hi), h.get (h.length_eq ▸ hi) hi⟩
  have hkeyword : IsKeyword keyword := by
    refine ⟨?_, fun c hc => ?_, fun c hc => ?_⟩
    · rintro rfl
      exact hne (List.forall₂_nil_right_iff.mp h)
    · obtain ⟨small, hsmall, hc⟩ := hmem hc
      exact (hletter hsmall hc).1
    · obtain ⟨small, hsmall, hc⟩ := hmem hc
      exact (hletter hsmall hc).2.1
  refine ⟨hkeyword, ?_⟩
  rw [Text.upperChars_name hkeyword.isNameChar]
  refine List.ext_getElem (by simp [h.length_eq]) fun i hi hi' => ?_
  rw [List.getElem_map, List.getElem_map]
  exact (hletter (List.getElem_mem _) (h.get _ _)).2.2

theorem IsKeyword.length_upperChars {keyword : List Char} (h : IsKeyword keyword) :
    (Text.upperChars keyword).length = keyword.length := by
  rw [Text.upperChars_name h.isNameChar, List.length_map]

theorem IsKeyword.upperChars_ne_nil {keyword : List Char} (h : IsKeyword keyword) : Text.upperChars keyword ≠ [] := by
  rw [← List.length_pos_iff, h.length_upperChars]
  exact List.length_pos_iff.mpr h.ne_nil

theorem IsKeyword.isBlank_upperChars {keyword : List Char} (h : IsKeyword keyword) :
    ∀ c ∈ Text.upperChars keyword, Text.isBlank c = false := by
  rw [Text.upperChars_name h.isNameChar]
  exact List.forall_mem_map.mpr fun c hc => Text.isBlank_of_isNameChar (Text.toUpper_nameChar (h.isNameChar c hc))

theorem IsKeyword.upper_strip {keyword : String} (h : IsKeyword keyword.toList) :
    Text.upper (Text.strip keyword) = String.ofList (Text.upperChars keyword.toList) := by
  have hstrip : Text.stripChars keyword.toList = keyword.toList := by
    have hsolid (c : Char) (hc : c ∈ keyword.toList) := Text.isBlank_of_isNameChar (h.isNameChar c hc)
    have hmargins : Text.stripChars ([] ++ (keyword.toList ++ [])) = keyword.toList :=
      Text.stripChars_append nofun nofun (fun c hc => hsolid c (List.mem_of_head? hc))
        fun c hc => hsolid c (List.mem_of_getLast? hc)
    rwa [List.nil_append, List.append_nil] at hmargins
  rw [Text.upper, Text.strip, String.toList_ofList, hstrip]

theorem IsTableStatement.isBroken {keyword : String} {rest : List Char}
    (h : IsTableStatement keyword.toList rest) :
    IsKeyword keyword.toList ∧ isBroken (Text.upper (Text.strip keyword)) rest = true := by
  cases h with
  | create hkeyword hrest =>
    obtain ⟨h, hupper⟩ := isKeyword_of_spells hkeyword (by decide) (by decide)
    refine ⟨h, ?_⟩
    rw [h.upper_strip, hupper]
    exact isBroken_create_iff.mpr hrest
  | alter hkeyword hrest =>
    obtain ⟨h, hupper⟩ := isKeyword_of_spells hkeyword (by decide) (by decide)
    refine ⟨h, ?_⟩
    rw [h.upper_strip, hupper]
    exact isBroken_alter_iff.mpr hrest

/-! ### Searching for the statement -/

/-- The offset of the body of a statement, which is what stands behind its keyword and the blanks that follow. -/
def bodyOffset (before keyword rest : List Char) : Nat :=
  before.length + (keyword.length + (rest.takeWhile Text.isBlank).length)

/-- The search for a statement finds it where it stands: the body stands nowhere else in front of its own place, and
in the script in upper case the keyword ends in front of that place, starts where the statement starts in the script
itself, and stands nowhere behind that in front of the body. -/
structure IsFound (script before keyword rest : List Char) : Prop where
  body : Text.StandsFirst (Text.stripChars rest) script (bodyOffset before keyword rest)
  keyword : Text.StandsLast (Text.upperChars keyword)
    ((Text.upperChars script).take (bodyOffset before keyword rest)) before.length

variable {before keyword rest after : List Char}

/-- The parts of a script around the body of a statement. -/
theorem exists_layout (hscript : script = before ++ (keyword ++ (rest ++ after))) :
    ∃ gap behind, (∀ b ∈ gap, Text.isBlank b = true) ∧
      bodyOffset before keyword rest = before.length + (keyword.length + gap.length) ∧
      script = before ++ (keyword ++ (gap ++ (Text.stripChars rest ++ behind))) := by
  obtain ⟨margin, hrest⟩ := Text.exists_eq_append_stripChars rest
  refine ⟨rest.takeWhile Text.isBlank, margin ++ after, fun _ => List.mem_takeWhile_imp, rfl, ?_⟩
  conv_lhs => rw [hscript, hrest]
  simp only [List.append_assoc]

theorem prefix_body (hscript : script = before ++ (keyword ++ (rest ++ after))) :
    Text.stripChars rest <+: script.drop (bodyOffset before keyword rest) := by
  obtain ⟨gap, behind, -, hoffset, rfl⟩ := exists_layout hscript
  rw [hoffset, List.drop_length_add_append, List.drop_length_add_append, List.drop_left]
  exact List.prefix_append _ _

theorem findIdx_of_prefix {p : Char → Bool} {xs ys : List Char} (h : xs <+: ys) (hx : ∃ c ∈ xs, p c = true) :
    ys.findIdx p = xs.findIdx p := by
  obtain ⟨zs, rfl⟩ := h
  rw [List.findIdx_append, if_pos (List.findIdx_lt_length.mpr hx)]

/-- The body does not stand at the start of the statement: its first letter `B` would come too late. -/
theorem not_prefix_body (hscript : script = before ++ (keyword ++ (rest ++ after))) (hkeyword : IsKeyword keyword)
    (hletter : ∃ c ∈ Text.stripChars rest, Text.isLetter 'b' c = true) :
    ¬ Text.stripChars rest <+: script.drop before.length := by
  obtain ⟨gap, behind, hgap, -, rfl⟩ := exists_layout hscript
  intro hstart
  rw [List.drop_left] at hstart
  have hnone : ∀ c ∈ keyword ++ gap, Text.isLetter 'b' c = false := by
    refine List.forall_mem_append.mpr ⟨hkeyword.not_b, fun c hc => Bool.eq_false_iff.mpr fun hb => ?_⟩
    have hsolid := Text.isBlank_of_isLetter hb (by decide)
    rw [hgap c hc] at hsolid
    cases hsolid
  have hfirst := findIdx_of_prefix hstart hletter
  have hbehind := findIdx_of_prefix (List.prefix_append (Text.stripChars rest) behind) hletter
  rw [← List.append_assoc, List.findIdx_append, List.findIdx_eq_length.mpr hnone, if_neg (Nat.lt_irrefl _), hbehind,
    List.length_append] at hfirst
  have hpos := List.length_pos_iff.mpr hkeyword.ne_nil
  omega

/-- Nor does it stand in the blanks behind the keyword. -/
theorem not_prefix_body_of_gap (hscript : script = before ++ (keyword ++ (rest ++ after)))
    (hne : Text.stripChars rest ≠ []) (hi : before.length + keyword.length ≤ i)
    (hlt : i < bodyOffset before keyword rest) : ¬ Text.stripChars rest <+: script.drop i := by
  obtain ⟨gap, behind, hgap, hoffset, rfl⟩ := exists_layout hscript
  obtain ⟨j, rfl⟩ := Nat.exists_eq_add_of_le hi
  have hj : j < gap.length := by omega
  obtain ⟨c, body, hbody⟩ := List.exists_cons_of_ne_nil hne
  rw [Nat.add_assoc, List.drop_length_add_append, List.drop_length_add_append,
    List.drop_append_of_le_length (Nat.le_of_lt hj), List.drop_eq_getElem_cons hj, hbody, List.cons_append,
    List.cons_prefix_cons]
  rintro ⟨rfl, -⟩
  have hhead : gap[j] ∈ (Text.stripChars rest).head? := by
    rw [hbody]
    rfl
  have hsolid := Text.isBlank_head?_stripChars _ hhead
  rw [hgap _ (List.getElem_mem hj)] at hsolid
  cases hsolid

theorem exists_locate_eq (hscript : script = before ++ (keyword ++ (rest ++ after)))
    (hne : Text.stripChars rest ≠ []) (word : String) :
    ∃ offset ≤ bodyOffset before keyword rest, Text.StandsFirst (Text.stripChars rest) script offset ∧
      locate script word rest = location script
        ((Text.findLast? word.toList ((Text.upperChars script).take offset)).getD offset) := by
  obtain ⟨offset, hle, hfind⟩ := Text.exists_find?_le (prefix_body hscript)
  refine ⟨offset, hle, Text.find?_eq_some_iff.mp hfind, ?_⟩
  simp only [locate, hfind]
  rw [if_neg (by simpa using hne)]

/-- The report is on the start of the statement exactly if the search finds the statement. -/
theorem locate_isOf_iff {word : String} (hscript : script = before ++ (keyword ++ (rest ++ after)))
    (hkeyword : IsKeyword keyword) (hword : word.toList = Text.upperChars keyword)
    (hletter : ∃ c ∈ Text.stripChars rest, Text.isLetter 'b' c = true) :
    (locate script word rest).IsOf script before.length ↔ IsFound script before keyword rest := by
  have hne : Text.stripChars rest ≠ [] := by
    obtain ⟨c, hc, -⟩ := hletter
    exact List.ne_nil_of_mem hc
  have hlength := hkeyword.length_upperChars
  have hupper := hkeyword.upperChars_ne_nil
  have hbound : before.length ≤ script.length ∧ bodyOffset before keyword rest ≤ script.length := by
    obtain ⟨gap, behind, -, hoffset, rfl⟩ := exists_layout hscript
    rw [hoffset]
    simp only [List.length_append]
    omega
  obtain ⟨offset, hle, hfirst, hlocate⟩ := exists_locate_eq hscript hne word
  rw [hlocate, isOf_iff, hword]
  cases hlast : Text.findLast? (Text.upperChars keyword) ((Text.upperChars script).take offset) with
  | none =>
    rw [Option.getD_none, location_inj (hle.trans hbound.2) hbound.1]
    constructor
    · rintro rfl
      exact (not_prefix_body hscript hkeyword hletter hfirst.stands).elim
    · intro hfound
      rw [hfirst.unique hfound.body, (Text.findLast?_eq_some_iff hupper).mpr hfound.keyword] at hlast
      cases hlast
  | some found =>
    have hkeywordLast := (Text.findLast?_eq_some_iff hupper).mp hlast
    obtain ⟨hends, -⟩ := (Text.prefix_drop_take_iff hupper).mp hkeywordLast.stands
    rw [Option.getD_some, location_inj (by omega) hbound.1]
    constructor
    · rintro rfl
      have hoffset : offset = bodyOffset before keyword rest := by
        refine Nat.le_antisymm hle (Nat.le_of_not_lt fun hlt => ?_)
        exact not_prefix_body_of_gap hscript hne (by omega) hlt hfirst.stands
      exact ⟨hoffset ▸ hfirst, hoffset ▸ hkeywordLast⟩
    · intro hfound
      rw [hfirst.unique hfound.body] at hkeywordLast
      exact hkeywordLast.unique hfound.keyword

/-- No keyword stands behind the statement's own, in front of the body. -/
theorem standsLast_append_gap {front word gap : List Char} (hword : ∀ c ∈ word, Text.isBlank c = false)
    (hne : word ≠ []) (hgap : ∀ b ∈ gap, Text.isBlank b = true) :
    Text.StandsLast word (front ++ (word ++ gap)) front.length := by
  refine ⟨by rw [List.drop_left]; exact List.prefix_append _ _, fun j hj => ?_⟩
  obtain ⟨k, rfl⟩ := Nat.exists_eq_add_of_lt hj
  rw [Nat.add_assoc, List.drop_length_add_append, List.drop_append]
  rintro ⟨behind, hsplit⟩
  -- too few characters that are no blanks are left for the word
  have hcount := congrArg (List.countP fun c => !Text.isBlank c) hsplit
  have hall : word.countP (fun c => !Text.isBlank c) = word.length :=
    List.countP_eq_length.mpr fun c hc => by simp [hword c hc]
  have hnone : (gap.drop (k + 1 - word.length)).countP (fun c => !Text.isBlank c) = 0 :=
    List.countP_eq_zero.mpr fun c hc => by simp [hgap c (List.mem_of_mem_drop hc)]
  have hfew := List.countP_le_length (p := fun c => !Text.isBlank c) (l := word.drop (k + 1))
  have hpos := List.length_pos_iff.mpr hne
  rw [List.countP_append, List.countP_append, hall, hnone] at hcount
  rw [List.length_drop] at hfew
  omega

/-- What stands in front of the statement only matters for the keyword if its upper case is longer or shorter. -/
theorem isFound_of_length_eq (hscript : script = before ++ (keyword ++ (rest ++ after)))
    (hkeyword : IsKeyword keyword) (hlength : (Text.upperChars before).length = before.length)
    (hbody : Text.StandsFirst (Text.stripChars rest) script (bodyOffset before keyword rest)) :
    IsFound script before keyword rest := by
  refine ⟨hbody, ?_⟩
  obtain ⟨gap, behind, hgap, hoffset, rfl⟩ := exists_layout hscript
  have hgapUpper : Text.upperChars gap = gap :=
    Text.upperChars_eq_self fun c hc => Text.upperChar_of_isBlank (hgap c hc)
  have htake : (Text.upperChars (before ++ (keyword ++ (gap ++ (Text.stripChars rest ++ behind))))).take
      (bodyOffset before keyword rest) = Text.upperChars before ++ (Text.upperChars keyword ++ gap) := by
    rw [Text.upperChars_append, Text.upperChars_append, Text.upperChars_append, hgapUpper, ← List.append_assoc,
      ← List.append_assoc]
    refine (List.take_left' ?_).trans (List.append_assoc _ _ _)
    rw [hoffset, List.length_append, List.length_append, hlength, hkeyword.length_upperChars, Nat.add_assoc]
  rw [htake, ← hlength]
  exact standsLast_append_gap hkeyword.isBlank_upperChars hkeyword.upperChars_ne_nil hgap

/-- If its upper case is longer, but not by more than the blanks behind the keyword, then the keyword is found behind
the place where the statement starts. -/
theorem not_isFound_of_length_lt (hscript : script = before ++ (keyword ++ (rest ++ after)))
    (hkeyword : IsKeyword keyword) (hlong : before.length < (Text.upperChars before).length)
    (hshort : (Text.upperChars before).length ≤ before.length + (rest.takeWhile Text.isBlank).length) :
    ¬ IsFound script before keyword rest := by
  intro hfound
  refine hfound.keyword.last _ hlong ((Text.prefix_drop_take_iff hkeyword.upperChars_ne_nil).mpr ⟨?_, ?_⟩)
  · rw [hkeyword.length_upperChars, bodyOffset]
    omega
  · rw [hscript, Text.upperChars_append, Text.upperChars_append, List.drop_left]
    exact List.prefix_append _ _

end Command

end SchemaDesk.Sql

/-! ### Reports -/

namespace SchemaDesk.Script

open Sql

/-- A statement on a table that was kept as a command is always reported. The report is on the place where the
statement starts exactly if the search finds the statement there. It does if the body stands nowhere in front of its
own place and the text in front of the statement has an upper case of the same length. It does not if that upper case
is longer, by no more characters than there are blanks behind the keyword. -/
theorem checkCommand_isOf_iff (script before after : List Char) (keyword rest : String)
    (hscript : script = before ++ (keyword.toList ++ (rest.toList ++ after)))
    (h : Command.IsTableStatement keyword.toList rest.toList) :
    ∃ message place,
      checkCommand script (.command keyword rest) = .error (.syntaxError { message, place := some place }) ∧
      (place.IsOf script before.length ↔ Command.IsFound script before keyword.toList rest.toList) ∧
      ((Text.upperChars before).length = before.length →
        Text.StandsFirst (Text.stripChars rest.toList) script
          (Command.bodyOffset before keyword.toList rest.toList) → place.IsOf script before.length) ∧
      (before.length < (Text.upperChars before).length →
        (Text.upperChars before).length ≤ before.length + (rest.toList.takeWhile Text.isBlank).length →
        ¬ place.IsOf script before.length) := by
  obtain ⟨hkeyword, hbroken⟩ := h.isBroken
  have hword : (Text.upper (Text.strip keyword)).toList = Text.upperChars keyword.toList := by
    rw [hkeyword.upper_strip, String.toList_ofList]
  have hletter : ∃ c ∈ Text.stripChars rest.toList, Text.isLetter 'b' c = true := by
    obtain ⟨c, hc, hb⟩ := h.exists_letter
    exact ⟨c, Text.mem_stripChars (Text.isBlank_of_isLetter hb (by decide)) hc, hb⟩
  have hplace := Command.locate_isOf_iff hscript hkeyword hword hletter
  have hreport : ∃ message, checkCommand script (.command keyword rest) = .error (.syntaxError
      { message, place := some (Command.locate script (Text.upper (Text.strip keyword)) rest.toList) }) := by
    simp only [checkCommand, Command.fault?, if_pos hbroken]
    exact ⟨_, rfl⟩
  obtain ⟨message, hreport⟩ := hreport
  refine ⟨message, _, hreport, hplace, fun hlength hbody => hplace.mpr ?_, fun hlong hshort => hplace.not.mpr ?_⟩
  · exact Command.isFound_of_length_eq hscript hkeyword hlength hbody
  · exact Command.not_isFound_of_length_lt hscript hkeyword hlong hshort

/-- What stands behind the keyword of a statement that is read up to the end of its columns and no further. -/
def unreadRest : String := " TABLE t (a INT) junk junk"

theorem isTableStatement_unreadRest : Command.IsTableStatement "create".toList unreadRest.toList := by
  refine .create ?_ (Command.isBroken_create_iff.mp (by decide +kernel))
  unfold Text.Spells
  decide

/-- In the second line of a script the statement is reported there. -/
theorem checkCommand_secondLine : ∃ message,
    checkCommand "SELECT 1;\ncreate TABLE t (a INT) junk junk;".toList (.command "create" unreadRest) =
      .error (.syntaxError { message, place := some ⟨2, 1⟩ }) := by
  obtain ⟨message, place, hreport, -, hplace, -⟩ := checkCommand_isOf_iff
    "SELECT 1;\ncreate TABLE t (a INT) junk junk;".toList "SELECT 1;\n".toList [';'] "create" unreadRest
    (by decide) isTableStatement_unreadRest
  have hfirst := hplace (by decide +kernel) (Text.find?_eq_some_iff.mp (by decide +kernel))
  obtain rfl : place = ⟨2, 1⟩ := (Command.isOf_iff.mp hfirst).trans (by decide +kernel)
  exact ⟨message, hreport⟩

/-- The report on a statement is not always on its place. A letter in a comment whose upper case has one more letter
moves it by a column, and a comment with the words of the statement's body has it on that comment. -/
theorem checkCommand_misplaced :
    let widened := "-- ß\n".toList ++ ("create".toList ++ (unreadRest.toList ++ [';']))
    let repeated := "-- TABLE t (a INT) junk junk\n".toList ++ ("create".toList ++ (unreadRest.toList ++ [';']))
    Command.IsTableStatement "create".toList unreadRest.toList ∧
      (∃ message, checkCommand widened (.command "create" unreadRest) =
        .error (.syntaxError { message, place := some ⟨2, 2⟩ })) ∧
      ¬ (⟨2, 2⟩ : Location).IsOf widened "-- ß\n".toList.length ∧
      (∃ message, checkCommand repeated (.command "create" unreadRest) =
        .error (.syntaxError { message, place := some ⟨1, 4⟩ })) ∧
      ¬ (⟨1, 4⟩ : Location).IsOf repeated "-- TABLE t (a INT) junk junk\n".toList.length := by
  have hreport {script : List Char} {place : Location} (message : String)
      (h : Command.fault? script "create" unreadRest = some (message, place)) :
      ∃ message, checkCommand script (.command "create" unreadRest) =
        .error (.syntaxError { message, place := some place }) := by
    rw [checkCommand, h]
    exact ⟨message, rfl⟩
  refine ⟨isTableStatement_unreadRest,
    hreport "Invalid or unsupported CREATE TABLE syntax. Line 2, Col: 2." (by decide +kernel), ?_,
    hreport "Invalid or unsupported CREATE TABLE syntax. Line 1, Col: 4." (by decide +kernel), ?_⟩
  · rw [Command.isOf_iff]
    decide +kernel
  · rw [Command.isOf_iff]
    decide +kernel

end SchemaDesk.Script

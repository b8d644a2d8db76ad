import SchemaDesk.Proofs.Ddl.PageReading
/-!
The types of columns as the tokens of a script show them: for each table its columns, each with the word
that stands behind its name.
-/

namespace SchemaDesk.Ddl

open Sql Sql.Reader Sql.Grammar Sql.Cursor
open Sql.SourceType

variable {d : Dialect} {us vs ts : List Token} {o c t : Token}

/-! ### Items between commas -/

/-- No parenthesis and, outside of parentheses, no comma. -/
def IsFlat (depth : Nat) (us : List Token) : Prop :=
  ∀ u ∈ us, u.isMark "(" = false ∧ u.isMark ")" = false ∧ (u.isMark "," && depth == 0) = false

theorem itemsFrom_cons (depth : Nat) (current ts : List Token) (t : Token) :
    itemsFrom depth current (t :: ts) =
      if t.isMark "(" then itemsFrom (depth + 1) (current ++ [t]) ts
      else if t.isMark ")" then
        match depth with
        | 0 => [current]
        | n + 1 => itemsFrom n (current ++ [t]) ts
      else if t.isMark "," && depth == 0 then current :: itemsFrom 0 [] ts
      else itemsFrom depth (current ++ [t]) ts := by
  cases depth <;> rfl

theorem itemsFrom_flat {depth : Nat} (h : IsFlat depth us) (current : List Token) :
    itemsFrom depth current (us ++ ts) = itemsFrom depth (current ++ us) ts := by
  induction us generalizing current with
  | nil => simp
  | cons u us ih =>
    obtain ⟨hopen, hclose, hcomma⟩ := h u (by simp)
    rw [List.cons_append, itemsFrom_cons]
    simp only [hopen, hclose, hcomma, Bool.false_eq_true, if_false]
    rw [ih (fun v hv => h v (by simp [hv])), List.append_assoc, List.singleton_append]

/-- What stands in parentheses belongs to the item. -/
theorem itemsFrom_group (ho : o.shape = .opening) (hc : c.shape = .closing) (h : IsFlat 1 us)
    (current : List Token) :
    itemsFrom 0 current (o :: (us ++ c :: ts)) = itemsFrom 0 (current ++ o :: (us ++ [c])) ts := by
  have hcis : c.Is (.mark ")") ")" := Token.is_iff_shape.mpr hc
  have hopen : c.isMark "(" = false := by simp [Token.isMark_eq, hcis.kind]
  rw [itemsFrom_cons, if_pos (Token.isMark_of_shape ho), itemsFrom_flat h, itemsFrom_cons]
  simp only [hopen, Bool.false_eq_true, if_false, Token.isMark_of_shape hc, if_true]
  simp

/-- The tokens are part of one item. -/
def IsPart (us : List Token) : Prop :=
  ∀ current ts, itemsFrom 0 current (us ++ ts) = itemsFrom 0 (current ++ us) ts

theorem IsPart.append (hus : IsPart us) (hvs : IsPart vs) : IsPart (us ++ vs) := by
  intro current ts
  rw [List.append_assoc, hus, hvs, List.append_assoc]

theorem isPart_of_kinds (h : ∀ u ∈ us, u.kind ∉ [.mark "(", .mark ")", .mark ","]) : IsPart us :=
  fun current ts => itemsFrom_flat (fun u hu => by
    have hkind := h u hu
    simp only [List.mem_cons, List.not_mem_nil, or_false, not_or] at hkind
    simp [Token.isMark_eq, hkind]) current

theorem isPart_group (ho : o.shape = .opening) (hc : c.shape = .closing)
    (h : ∀ u ∈ us, u.kind ∉ [.mark "(", .mark ")"]) : IsPart (o :: (us ++ [c])) := by
  intro current ts
  rw [List.cons_append, List.append_assoc, List.singleton_append]
  refine itemsFrom_group ho hc (fun u hu => ?_) current
  have hkind := h u hu
  simp only [List.mem_cons, List.not_mem_nil, or_false, not_or] at hkind
  simp [Token.isMark_eq, hkind]

/-! ### Lines -/

theorem kind_of_shapes {ss : List TokenShape} (hus : us.map Token.shape = ss) {p : TokenKind → Prop}
    (h : ∀ s ∈ ss, p s.kind) : ∀ u ∈ us, p u.kind :=
  fun _ hu => h _ (hus ▸ List.mem_map_of_mem hu)

/-- The kinds of the tokens of a clause. -/
def Clause.kinds : Clause → List TokenKind
  | .key => [.keyword "PRIMARY KEY"]
  | .counts _ => [.keyword "AUTO_INCREMENT"]
  | .notNull => [.keyword "NOT", .type "NULL"]
  | .unique => [.keyword "UNIQUE"]
  | .uniqueDefault => [.keyword "UNIQUE", .keyword "DEFAULT"]
  | .null => [.type "NULL"]
  | .default (.number true _) => [.keyword "DEFAULT", .mark "-", .number]
  | .default (.number false _) => [.keyword "DEFAULT", .number]
  | .default (.text _) => [.keyword "DEFAULT", .text]
  | .default (.bool true) => [.keyword "DEFAULT", .keyword "TRUE"]
  | .default (.bool false) => [.keyword "DEFAULT", .keyword "FALSE"]
  | .default .null => [.keyword "DEFAULT", .type "NULL"]
  | .default .now => [.keyword "DEFAULT", .keyword "CURRENT_TIMESTAMP"]

theorem Clause.map_kind_shapes (x : Clause) : x.shapes.map (·.kind) = x.kinds := by
  cases x with
  | counts underscore => cases underscore <;> rfl
  | key | notNull | unique | uniqueDefault | null => rfl
  | default x =>
    cases x with
    | number negative digits => cases negative <;> rfl
    | bool b => cases b <;> rfl
    | text content | null | now => rfl

theorem Clause.kind_of_mem_shapes {x : Clause} {s : TokenShape} (hs : s ∈ x.shapes) :
    s.kind ∉ [.mark "(", .mark ")", .mark ","] := by
  have hkinds : ∀ k ∈ x.kinds, k ∉ [.mark "(", .mark ")", .mark ","] := by
    unfold kinds
    split <;> decide
  exact hkinds _ (x.map_kind_shapes ▸ List.mem_map_of_mem hs)

/-- The numbers of a type stand in parentheses, or there are none. -/
theorem TypeWords.group_cases {ns : List Int}
    (hus : us.map Token.shape = (numberLexemes ns).filterMap Lexeme.shape?) :
    us = [] ∨ ∃ o vs c, us = o :: (vs ++ [c]) ∧ o.shape = .opening ∧ c.shape = .closing ∧
      ∀ v ∈ vs, v.kind ∉ [.mark "(", .mark ")"] := by
  obtain - | ⟨n, ns⟩ := ns
  · exact Or.inl (by simpa [numberLexemes] using hus)
  · rw [shapes_numberLexemes] at hus
    obtain ⟨o, us, rfl, ho, hus⟩ := List.map_eq_cons_iff.mp hus
    obtain ⟨vs, cs, rfl, hvs, hcs⟩ := List.map_eq_append_iff.mp hus
    obtain ⟨c, rfl, hc⟩ := List.map_eq_singleton_iff.mp hcs
    have hnumber (m : Int) : ∀ s ∈ numberShapes m, s.kind ∉ [.mark "(", .mark ")"] := by
      have hkinds : ∀ k ∈ (numberShapes m).map (·.kind), k ∉ [.mark "(", .mark ")"] := by
        unfold numberShapes Literal.ofInt
        cases decide (m < 0) with
        | true =>
          show ∀ k ∈ [TokenKind.mark "-", .number], k ∉ [.mark "(", .mark ")"]
          decide
        | false =>
          show ∀ k ∈ [TokenKind.number], k ∉ [.mark "(", .mark ")"]
          decide
      exact fun s hs => hkinds _ (List.mem_map_of_mem hs)
    refine Or.inr ⟨o, vs, c, rfl, ho, hc, kind_of_shapes (p := (· ∉ [.mark "(", .mark ")"])) hvs fun s hs => ?_⟩
    rcases List.mem_append.mp hs with hs | hs
    · exact hnumber n s hs
    · obtain ⟨m, -, hs⟩ := List.mem_flatMap.mp hs
      rcases List.mem_cons.mp hs with rfl | hs
      · decide
      · exact hnumber m s hs

/-- The tokens of a column: its name, the word of its type, the numbers, and the clauses. -/
theorem Line.exists_column_tokens {name : String} {type : TypeWords} {clauses : List Clause}
    (hus : us.map Token.shape = (column name type clauses).shapes) :
    ∃ i u gs cs, us = i :: u :: (gs ++ cs) ∧ i.Is .word name ∧ u.Is type.kind type.name ∧
      gs.map Token.shape = (TypeWords.numberLexemes type.numbers).filterMap Lexeme.shape? ∧
      cs.map Token.shape = clauses.flatMap Clause.shapes := by
  rw [shapes_column] at hus
  obtain ⟨i, us, rfl, hi, hus⟩ := List.map_eq_cons_iff.mp hus
  obtain ⟨u, us, rfl, hu, hus⟩ := List.map_eq_cons_iff.mp hus
  obtain ⟨gs, cs, rfl, hgs, hcs⟩ := List.map_eq_append_iff.mp hus
  exact ⟨i, u, gs, cs, rfl, Token.is_iff_shape.mpr hi, Token.is_iff_shape.mpr hu, hgs, hcs⟩

theorem Line.isPart {x : Line} (hx : x.IsValid d) (hus : us.map Token.shape = x.shapes) : IsPart us := by
  cases x with
  | column name type clauses =>
    obtain ⟨i, u, gs, cs, rfl, hi, hu, hgs, hcs⟩ := exists_column_tokens hus
    have hfront : IsPart [i, u] := by
      rcases TypeWords.form_cases hx.2.1 with ⟨n, h, -⟩ | ⟨h, -⟩ | ⟨h, -⟩ <;>
        exact isPart_of_kinds (by simp [hi.kind, hu.kind, h])
    have hgroup : IsPart gs := by
      rcases TypeWords.group_cases hgs with rfl | ⟨o, vs, c, rfl, ho, hc, hvs⟩
      · exact isPart_of_kinds nofun
      · exact isPart_group ho hc hvs
    have hclauses : IsPart cs := by
      refine isPart_of_kinds (kind_of_shapes (p := (· ∉ [.mark "(", .mark ")", .mark ","])) hcs fun s hs => ?_)
      obtain ⟨c, -, hs⟩ := List.mem_flatMap.mp hs
      exact Clause.kind_of_mem_shapes hs
    exact hfront.append (hgroup.append hclauses)
  | key first more =>
    rw [shapes_key] at hus
    obtain ⟨p, us, rfl, hp, hus⟩ := List.map_eq_cons_iff.mp hus
    obtain ⟨o, us, rfl, ho, hus⟩ := List.map_eq_cons_iff.mp hus
    obtain ⟨vs, cs, rfl, hvs, hcs⟩ := List.map_eq_append_iff.mp hus
    obtain ⟨c, rfl, hc⟩ := List.map_eq_singleton_iff.mp hcs
    have hp : p.Is (.keyword "PRIMARY KEY") "PRIMARY KEY" := Token.is_iff_shape.mpr hp
    have hword : IsPart [p] := isPart_of_kinds (by simp [hp.kind])
    refine hword.append (isPart_group ho hc (kind_of_shapes (p := (· ∉ [.mark "(", .mark ")"])) hvs ?_))
    intro s hs
    rcases List.mem_cons.mp hs with rfl | hs
    · simp [wordShape]
    · obtain ⟨n, -, hs⟩ := List.mem_flatMap.mp hs
      rcases List.mem_pair.mp hs with rfl | rfl
      · decide
      · simp [wordShape]

/-! ### The types of columns -/

/-- The column of a line with the word of its type. -/
def Line.sourceType? : Line → Option (String × String)
  | column name type _ => some (Text.lower name, type.name)
  | key _ _ => none

theorem typeWords_flat (h : ∀ u ∈ us, u.isMark "(" = false ∧ u.isMark ")" = false) :
    typeWords 1 (us ++ ts) = typeWords 1 ts := by
  induction us with
  | nil => rfl
  | cons u us ih =>
    obtain ⟨hopen, hclose⟩ := h u (by simp)
    rw [List.cons_append, typeWords]
    simp only [hopen, hclose, Bool.false_eq_true, if_false]
    simpa using ih fun v hv => h v (by simp [hv])

theorem typeWords_group (ho : o.shape = .opening) (hc : c.shape = .closing)
    (h : ∀ u ∈ us, u.kind ∉ [.mark "(", .mark ")"]) :
    typeWords 0 (o :: (us ++ c :: ts)) = typeWords 0 ts := by
  have hcis : c.Is (.mark ")") ")" := Token.is_iff_shape.mpr hc
  have hopen : c.isMark "(" = false := by simp [Token.isMark_eq, hcis.kind]
  have hflat : ∀ u ∈ us, u.isMark "(" = false ∧ u.isMark ")" = false := by
    simpa [Token.isMark_eq] using h
  rw [typeWords, if_pos (Token.isMark_of_shape ho), Int.zero_add, typeWords_flat hflat, typeWords]
  simp only [hopen, Bool.false_eq_true, if_false, Token.isMark_of_shape hc, if_true]
  rfl

/-- No word of a type is left behind its numbers. -/
theorem typeWords_clauses {clauses : List Clause} (hus : us.map Token.shape = clauses.flatMap Clause.shapes) :
    typeWords 0 us = [] := by
  cases clauses with
  | nil =>
    obtain rfl : us = [] := by simpa using hus
    rfl
  | cons c cs =>
    have hfirst : ∃ k s ss, c.shapes = ⟨k, s, []⟩ :: ss ∧ s ∈ Token.capitals ∧ s ∈ stopWords ∧
        k ∉ [.mark "(", .mark ")", .mark "[", .mark "]"] := by
      cases c with
      | counts underscore => cases underscore <;> exact ⟨_, _, _, rfl, by decide, by decide, by decide⟩
      | key | notNull | unique | uniqueDefault | null | default x =>
        exact ⟨_, _, _, rfl, by decide, by decide, by decide⟩
    obtain ⟨k, s, ss, hshapes, hcapital, hstop, hkind⟩ := hfirst
    rw [List.flatMap_cons, hshapes, List.cons_append] at hus
    obtain ⟨t, us, rfl, ht, -⟩ := List.map_eq_cons_iff.mp hus
    have ht : t.Is k s := Token.is_iff_shape.mpr ht
    simp only [List.mem_cons, List.not_mem_nil, or_false, not_or] at hkind
    rw [typeWords]
    simp [Token.isMark_eq, ht.kind, hkind, ht.caseless hcapital, hstop]

theorem stopWords_type (d : Dialect) : ∀ f ∈ TypeWords.forms d,
    stopWords.contains (Text.collapse (Text.upper f.2.1)) = false ∧ f.2.1 ≠ "" := by
  cases d <;> decide +kernel

/-- The word of a type is found in front of its numbers and of the clauses. -/
theorem typeText_eq {t : TypeWords} (ht : t.IsKnown d) {u : Token} (hu : u.Is t.kind t.name)
    (hus : us.map Token.shape = (TypeWords.numberLexemes t.numbers).filterMap Lexeme.shape?)
    {clauses : List Clause} (hvs : vs.map Token.shape = clauses.flatMap Clause.shapes) :
    typeText (u :: (us ++ vs)) = t.name := by
  obtain ⟨hstop, -⟩ := stopWords_type d _ ht
  have hcaseless : stopWords.contains u.caseless = false := by rw [Token.caseless, hu.text, hstop]
  have hmark (m : String) : u.isMark m = false := by
    rcases TypeWords.form_cases ht with ⟨n, h, -⟩ | ⟨h, -⟩ | ⟨h, -⟩ <;> simp [Token.isMark_eq, hu.kind, h]
  have hbehind : typeWords 0 (us ++ vs) = [] := by
    rcases TypeWords.group_cases hus with rfl | ⟨o, ws, c, rfl, ho, hc, hws⟩
    · exact typeWords_clauses hvs
    · rw [List.cons_append, List.append_assoc, List.singleton_append, typeWords_group ho hc hws]
      exact typeWords_clauses hvs
  have hwords : typeWords 0 (u :: (us ++ vs)) = [t.name] := by
    rw [typeWords]
    simp only [hmark, hcaseless, Bool.false_eq_true, if_false, hbehind, hu.text]
    rfl
  rw [typeText, hwords]
  rfl

theorem column?_eq {x : Line} (hx : x.IsValid d) (hus : us.map Token.shape = x.shapes) :
    column? us = x.sourceType? := by
  cases x with
  | column name type clauses =>
    obtain ⟨i, u, gs, cs, rfl, hi, hu, hgs, hcs⟩ := Line.exists_column_tokens hus
    obtain ⟨hname, htype, -, -⟩ := hx
    have hitem : itemWords.contains i.caseless = false := by
      have hnot := hname.caseless_notMem hi
      have hnot : i.caseless ∉ itemWords := fun h => hnot (by simp [specialWords, h])
      simpa using hnot
    have htext := typeText_eq htype hu hgs hcs
    have hne := (stopWords_type d _ htype).2
    rw [column?]
    simp only [List.isEmpty_cons, hitem, Bool.or_self, Bool.false_eq_true, if_false, htext, hi.text]
    simp [hne, Line.sourceType?]
  | key first more =>
    rw [Line.shapes_key] at hus
    obtain ⟨p, us, rfl, hp, -⟩ := List.map_eq_cons_iff.mp hus
    have hp : p.Is (.keyword "PRIMARY KEY") "PRIMARY KEY" := Token.is_iff_shape.mpr hp
    have hitem : p.caseless ∈ itemWords := by
      rw [hp.caseless (by decide)]
      decide
    simp [column?, hitem, Line.sourceType?]

/-! ### Tables -/

theorem Line.shapes_ne_nil (x : Line) : x.shapes ≠ [] := by
  cases x with
  | column name type clauses => simp [shapes_column]
  | key first more => simp [shapes_key]

/-- The items of a table are its lines. -/
theorem itemsFrom_lines {first : Line} {more : List Line} (h : ∀ x ∈ first :: more, x.IsValid d)
    (hus : us.map Token.shape = first.shapes ++ more.flatMap fun x => .comma :: x.shapes)
    (hc : c.shape = .closing) :
    List.Forall₂ (fun us x => us.map Token.shape = x.shapes) (itemsFrom 0 [] (us ++ c :: ts))
      (first :: more) := by
  induction more generalizing first us with
  | nil =>
    have hus : us.map Token.shape = first.shapes := by simpa using hus
    have hcis : c.Is (.mark ")") ")" := Token.is_iff_shape.mpr hc
    have hopen : c.isMark "(" = false := by simp [Token.isMark_eq, hcis.kind]
    rw [Line.isPart (h first (by simp)) hus, itemsFrom_cons]
    simp only [hopen, Bool.false_eq_true, if_false, Token.isMark_of_shape hc, if_true, List.nil_append]
    exact .cons hus .nil
  | cons x more ih =>
    obtain ⟨vs, ws, rfl, hvs, hws⟩ := List.map_eq_append_iff.mp hus
    rw [List.flatMap_cons, List.cons_append] at hws
    obtain ⟨m, ws, rfl, hm, hws⟩ := List.map_eq_cons_iff.mp hws
    have hmis : m.Is (.mark ",") "," := Token.is_iff_shape.mpr hm
    have hrest := ih (fun y hy => h y (List.mem_cons_of_mem first hy)) hws
    rw [List.append_assoc, Line.isPart (h first (by simp)) hvs, List.cons_append, itemsFrom_cons]
    simp only [Token.isMark_eq, hmis.kind, List.nil_append]
    exact .cons hvs hrest

/-- The word for a table and its columns with the words of their types. -/
def CreateTable.sourceTypes (t : CreateTable) : String × List (String × String) :=
  (Text.lower t.name, (t.first :: t.more).filterMap Line.sourceType?)

theorem filterMap_column? {uss : List (List Token)} {xs : List Line}
    (h : List.Forall₂ (fun us x => us.map Token.shape = x.shapes) uss xs) (hxs : ∀ x ∈ xs, x.IsValid d) :
    (uss.filter fun us => !us.isEmpty).filterMap column? = xs.filterMap Line.sourceType? := by
  induction h with
  | nil => rfl
  | @cons us x uss xs hus _ ih =>
    have hne : (!us.isEmpty) = true := by
      cases us with
      | nil => exact (x.shapes_ne_nil (by simpa using hus.symm)).elim
      | cons u us => rfl
    rw [List.filter_cons_of_pos (by simpa using hne), List.filterMap_cons, List.filterMap_cons,
      column?_eq (hxs x (by simp)) hus, ih fun y hy => hxs y (by simp [hy])]

/-- The tokens of a table show its name and the types of its columns. -/
theorem createdTable?_table {x : CreateTable} (hx : x.IsValid d) (hus : x.IsChunk us) :
    (createdTable? us).map (fun p => (Text.lower p.1, p.2.filterMap column?)) = some x.sourceTypes := by
  obtain ⟨t, vs, rfl, hkind, htext, hvs⟩ := hus
  obtain ⟨w, vs, rfl, hw, hvs⟩ := List.map_eq_cons_iff.mp hvs
  obtain ⟨i, vs, rfl, hi, hvs⟩ := List.map_eq_cons_iff.mp hvs
  obtain ⟨o, vs, rfl, ho, hvs⟩ := List.map_eq_cons_iff.mp hvs
  obtain ⟨vs, cs, rfl, hlines, hcs⟩ := List.map_eq_append_iff.mp hvs
  obtain ⟨c, rfl, hc⟩ := List.map_eq_singleton_iff.mp hcs
  have hw : w.Is (.keyword "TABLE") "TABLE" := Token.is_iff_shape.mpr hw
  have hi : i.Is .word x.name := Token.is_iff_shape.mpr hi
  have hois : o.Is (.mark "(") "(" := Token.is_iff_shape.mpr ho
  have hcreate : t.caseless = "CREATE" := by rw [Token.caseless, htext]; decide +kernel
  have htable : w.caseless = "TABLE" := hw.caseless (by decide)
  have hspecial := hx.1.caseless_notMem hi
  have hname : tableName? false none (t :: w :: i :: o :: (vs ++ [c])) = some x.name := by
    have hprefix : i.caseless ∉ prefixWords := fun h => hspecial (by simp [specialWords, h])
    have hnot : i.caseless ≠ "TABLE" := by
      intro h
      have hword := hx.1.word
      rw [← hx.1.toIsWord.caseless hi, h] at hword
      revert hword
      cases d <;> decide +kernel
    simp [tableName?, Token.isMark_eq, hkind, hw.kind, hi.kind, hois.kind, hcreate, htable, hnot, hprefix,
      hi.text]
  have hitems : SourceType.items (t :: w :: i :: o :: (vs ++ [c])) =
      (itemsFrom 0 [] (vs ++ c :: [])).filter fun us => !us.isEmpty := by
    simp [SourceType.items, Token.isMark_eq, hkind, hw.kind, hi.kind, hois.kind]
  have hitemsFrom : List.Forall₂ (fun us y => us.map Token.shape = y.shapes) (itemsFrom 0 [] (vs ++ [c]))
      (x.first :: x.more) := itemsFrom_lines hx.2 hlines hc
  rw [createdTable?]
  simp only [hcreate, hname, hitems, beq_self_eq_true, if_true, Option.map_some,
    filterMap_column? hitemsFrom hx.2]
  rfl

theorem createdTable?_key {x : AddKey} (hus : x.IsChunk us) : createdTable? us = none := by
  obtain ⟨t, vs, rfl, -, htext, -⟩ := hus
  have halter : t.caseless = "ALTER" := by rw [Token.caseless, htext]; decide +kernel
  simp [createdTable?, halter]

/-- What the tokens of a definition show. -/
def Definition.sourceTypes? : Definition → Option (String × List (String × String))
  | table t => some t.sourceTypes
  | key _ => none

theorem all_eq_filterMap {xs : List Definition} (hsplits : Entry.Splits xs ts)
    (hvalid : ∀ x ∈ xs, x.IsValid d) : SourceType.all ts = xs.filterMap Definition.sourceTypes? := by
  induction hsplits with
  | nil => rfl
  | @cons x xs us ts s hus hs _ _ ih =>
    have hx := hvalid x (by simp)
    have hmark : s.isMark ";" = true := by simp [Token.isMark_eq, hs]
    have hne : us.isEmpty = false := by
      obtain ⟨t, vs, rfl, -⟩ := hus
      rfl
    have hstatements : SourceType.statements (us ++ s :: ts) = us :: SourceType.statements ts := by
      have hsplit : (us ++ s :: ts).splitOnP (·.isMark ";") =
          us.splitOnP (·.isMark ";") ++ ts.splitOnP (·.isMark ";") := List.splitOnP_append_cons us ts hmark
      rw [SourceType.statements, hsplit, List.splitOnP_eq_singleton (hus.notMark hx),
        List.singleton_append, List.filter_cons_of_pos (by simp [hne]), SourceType.statements]
    have hrest := ih fun y hy => hvalid y (by simp [hy])
    rw [SourceType.all] at hrest
    rw [SourceType.all, hstatements]
    cases x with
    | table t =>
      have htable := createdTable?_table hx hus
      cases hcreated : createdTable? us with
      | none => rw [hcreated] at htable; cases htable
      | some p =>
        rw [hcreated, Option.map_some] at htable
        rw [List.filterMap_cons_some hcreated, List.map_cons, hrest]
        exact congrArg (· :: _) (Option.some.inj htable)
    | key k =>
      rw [List.filterMap_cons_none (createdTable?_key hus), hrest]
      rfl

end SchemaDesk.Ddl

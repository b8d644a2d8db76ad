import SchemaDesk.Proofs.Reading.OneColumn
import SchemaDesk.Proofs.Sql.Layout
/-!
Lists of tokens cut at separators: a script at its semicolons, and what stands between the parentheses of a table at
the commas outside of all further parentheses. Nothing is lost but the separators and the parts that have no token, and
nothing behind the closing parenthesis gets into a part.
-/

namespace SchemaDesk.Sql

open SourceType

variable {isSeparator : Token → Bool} {t : Token} {ts us part : List Token} {parts : List (List Token)}

/-! ### Parts -/

/-- The list consists of the parts, in order, with a separator between every two of them. -/
inductive CutAt (isSeparator : Token → Bool) : List Token → List (List Token) → Prop
  | last (part : List Token) : CutAt isSeparator part [part]
  | cut {part ts : List Token} {separator : Token} {parts : List (List Token)}
      (hseparator : isSeparator separator = true) (hrest : CutAt isSeparator ts parts) :
      CutAt isSeparator (part ++ separator :: ts) (part :: parts)

theorem CutAt.cons {part : List Token} (t : Token) (h : CutAt isSeparator ts (part :: parts)) :
    CutAt isSeparator (t :: ts) ((t :: part) :: parts) := by
  cases h with
  | last => exact .last _
  | cut hseparator hrest =>
    rw [← List.cons_append]
    exact .cut hseparator hrest

theorem CutAt.nil_cons (ht : isSeparator t = true) (h : CutAt isSeparator ts parts) :
    CutAt isSeparator (t :: ts) ([] :: parts) := by
  rw [← List.nil_append (t :: ts)]
  exact .cut ht h

theorem CutAt.flatten_sublist (h : CutAt isSeparator ts parts) : parts.flatten.Sublist ts := by
  induction h with
  | last part => rw [List.flatten_cons, List.flatten_nil, List.append_nil]
  | cut _ _ ih => exact (List.Sublist.refl _).append (ih.cons _)

/-- The parts of a list that have tokens, where every part is of the given kind. -/
def SplitsInto (isSeparator : Token → Bool) (isPart : List Token → Prop) (ts : List Token)
    (pieces : List (List Token)) : Prop :=
  ∃ parts, CutAt isSeparator ts parts ∧ (∀ part ∈ parts, isPart part) ∧ pieces = parts.filter fun p => !p.isEmpty

theorem SplitsInto.flatten_sublist {isPart : List Token → Prop} {pieces : List (List Token)}
    (h : SplitsInto isSeparator isPart ts pieces) : pieces.flatten.Sublist ts := by
  obtain ⟨parts, hcut, -, rfl⟩ := h
  rw [List.flatten_filter_not_isEmpty]
  exact hcut.flatten_sublist

/-! ### Statements -/

/-- No semicolon is among the tokens. -/
def IsStatement (part : List Token) : Prop := ∀ t ∈ part, t.isMark ";" = false

theorem splitOnP_eq_of_cutAt (h : CutAt isSeparator ts parts) (hparts : ∀ p ∈ parts, ∀ t ∈ p, isSeparator t = false) :
    ts.splitOnP isSeparator = parts := by
  induction h with
  | last part =>
    exact List.splitOnP_eq_singleton (hparts part (by simp))
  | @cut part ts separator parts hseparator _ ih =>
    rw [List.forall_mem_cons] at hparts
    rw [List.splitOnP_append_cons_of_forall_mem hparts.1 separator hseparator, ih hparts.2]

theorem exists_cutAt (isSeparator : Token → Bool) (ts : List Token) :
    ∃ part parts, CutAt isSeparator ts (part :: parts) ∧ ∀ p ∈ part :: parts, ∀ t ∈ p, isSeparator t = false := by
  induction ts with
  | nil => exact ⟨[], [], .last [], by simp⟩
  | cons t ts ih =>
    obtain ⟨part, parts, hcut, hparts⟩ := ih
    cases ht : isSeparator t with
    | true => exact ⟨[], part :: parts, hcut.nil_cons ht, List.forall_mem_cons.mpr ⟨by simp, hparts⟩⟩
    | false =>
      rw [List.forall_mem_cons] at hparts
      exact ⟨t :: part, parts, hcut.cons t,
        List.forall_mem_cons.mpr ⟨List.forall_mem_cons.mpr ⟨ht, hparts.1⟩, hparts.2⟩⟩

/-- A script is cut at its semicolons, in this way only. -/
theorem splitsInto_statements_iff {pieces : List (List Token)} :
    SplitsInto (·.isMark ";") IsStatement ts pieces ↔ pieces = SourceType.statements ts := by
  constructor
  · rintro ⟨parts, hcut, hparts, rfl⟩
    rw [SourceType.statements, splitOnP_eq_of_cutAt hcut hparts]
  · rintro rfl
    obtain ⟨part, parts, hcut, hparts⟩ := exists_cutAt (·.isMark ";") ts
    exact ⟨part :: parts, hcut, hparts, by rw [SourceType.statements, splitOnP_eq_of_cutAt hcut hparts]⟩

/-! ### Parentheses -/

/-- How many more parentheses are open behind the token than in front of it. -/
def Token.nesting (t : Token) : Int := if t.isMark "(" then 1 else if t.isMark ")" then -1 else 0

/-- How many more parentheses are open behind the tokens than in front of them. -/
def depth : List Token → Int
  | [] => 0
  | t :: ts => t.nesting + depth ts

@[simp] theorem depth_nil : depth [] = 0 := rfl

@[simp] theorem depth_cons (t : Token) (ts : List Token) : depth (t :: ts) = t.nesting + depth ts := rfl

/-- Where so many parentheses are open in front, the tokens close all of them, those of their own too, and no other. -/
structure BalancedFrom (d : Int) (ts : List Token) : Prop where
  closed : d + depth ts = 0
  opened : ∀ front, front <+: ts → 0 ≤ d + depth front

/-- Where so many parentheses are open in front, no comma stands outside of all parentheses. -/
def WholeFrom (d : Int) (ts : List Token) : Prop :=
  ∀ front t back, ts = front ++ t :: back → d + depth front = 0 → t.isMark "," = false

/-- The tokens have balanced parentheses. -/
def Balanced (ts : List Token) : Prop := BalancedFrom 0 ts

/-- The tokens may be one item of a table: their parentheses are balanced, and all commas stand within parentheses. -/
def IsItem (part : List Token) : Prop := Balanced part ∧ WholeFrom 0 part

theorem balancedFrom_nil_iff {d : Int} : BalancedFrom d [] ↔ d = 0 := by
  constructor
  · intro h
    simpa using h.closed
  · rintro rfl
    exact ⟨rfl, fun front hfront => by simp [List.prefix_nil.mp hfront]⟩

theorem balancedFrom_cons_iff {d : Int} : BalancedFrom d (t :: ts) ↔ 0 ≤ d ∧ BalancedFrom (d + t.nesting) ts := by
  constructor
  · rintro ⟨hclosed, hopened⟩
    refine ⟨by simpa using hopened [] List.nil_prefix, by simpa [Int.add_assoc] using hclosed, fun front hfront => ?_⟩
    simpa [Int.add_assoc] using hopened (t :: front) (List.cons_prefix_cons.mpr ⟨rfl, hfront⟩)
  · rintro ⟨hd, hclosed, hopened⟩
    refine ⟨by simpa [Int.add_assoc] using hclosed, fun front hfront => ?_⟩
    rcases List.prefix_cons_iff.mp hfront with rfl | ⟨inner, rfl, hinner⟩
    · simpa using hd
    · simpa [Int.add_assoc] using hopened inner hinner

instance decidableBalancedFrom : (d : Int) → (ts : List Token) → Decidable (BalancedFrom d ts)
  | _, [] => decidable_of_iff _ balancedFrom_nil_iff.symm
  | d, t :: ts =>
    have := decidableBalancedFrom (d + t.nesting) ts
    decidable_of_iff _ balancedFrom_cons_iff.symm

instance : DecidablePred Balanced := decidableBalancedFrom 0

theorem wholeFrom_nil (d : Int) : WholeFrom d [] := fun front t back h => by simp at h

theorem wholeFrom_cons_iff {d : Int} :
    WholeFrom d (t :: ts) ↔ (d = 0 → t.isMark "," = false) ∧ WholeFrom (d + t.nesting) ts := by
  constructor
  · intro h
    refine ⟨fun hd => h [] t ts rfl (by simpa using hd), fun front u back hts hdepth => ?_⟩
    exact h (t :: front) u back (by rw [hts, List.cons_append]) (by simpa [Int.add_assoc] using hdepth)
  · rintro ⟨hcomma, hwhole⟩ front u back hts hdepth
    rcases List.cons_eq_append_iff.mp hts with ⟨rfl, hback⟩ | ⟨front, rfl, hfront⟩
    · obtain ⟨rfl, -⟩ := List.cons.inj hback
      exact hcomma (by simpa using hdepth)
    · exact hwhole front u back hfront (by simpa [Int.add_assoc] using hdepth)

theorem balancedFrom_neg {d : Int} (hd : d < 0) : ¬ BalancedFrom d ts := fun h => by
  have hopened := h.opened [] List.nil_prefix
  rw [depth_nil] at hopened
  omega

/-- What the depth says about an item, token by token. -/
theorem isClosed_iff {d : Nat} : isClosed d ts = true ↔ BalancedFrom d ts ∧ WholeFrom d ts := by
  induction ts generalizing d with
  | nil => simp [isClosed, balancedFrom_nil_iff, wholeFrom_nil]
  | cons t ts ih =>
    have hd : 0 ≤ (d : Int) := by omega
    rw [isClosed, balancedFrom_cons_iff, wholeFrom_cons_iff, Token.nesting]
    by_cases hopen : t.isMark "(" = true
    · have hcomma : t.isMark "," = false := Layout.isMark_eq_false hopen (by decide)
      have hcast : ((d + 1 : Nat) : Int) = (d : Int) + 1 := rfl
      rw [if_pos hopen, if_pos hopen, ih, hcast]
      exact ⟨fun h => ⟨⟨hd, h.1⟩, fun _ => hcomma, h.2⟩, fun h => ⟨h.1.2, h.2.2⟩⟩
    rw [if_neg hopen, if_neg hopen]
    by_cases hclose : t.isMark ")" = true
    · have hcomma : t.isMark "," = false := Layout.isMark_eq_false hclose (by decide)
      rw [if_pos hclose, if_pos hclose, Bool.and_eq_true, decide_eq_true_eq]
      cases d with
      | zero => exact iff_of_false (by simp) fun h => balancedFrom_neg (by decide) h.1.2
      | succ n =>
        have hcast : ((n + 1 : Nat) : Int) + -1 = (n : Int) := by omega
        rw [Nat.add_sub_cancel, ih, hcast]
        exact ⟨fun h => ⟨⟨hd, h.2.1⟩, fun _ => hcomma, h.2.2⟩, fun h => ⟨Nat.succ_pos n, h.1.2, h.2.2⟩⟩
    · rw [if_neg hclose, if_neg hclose, Int.add_zero, Bool.and_eq_true, ih]
      simp [hd]
      tauto

theorem isItem_iff : IsItem part ↔ isClosed 0 part = true := isClosed_iff.symm

/-! ### Items -/

/-- What has balanced parentheses is cut into items by its commas outside of them. Where so many parentheses are open in
front, the first part closes them. -/
theorem exists_cutAt_commas {d : Nat} (h : BalancedFrom d ts) :
    ∃ part parts, CutAt (·.isMark ",") ts (part :: parts) ∧ isClosed d part = true ∧ ∀ p ∈ parts, IsItem p := by
  induction ts generalizing d with
  | nil =>
    obtain rfl : d = 0 := by simpa using balancedFrom_nil_iff.mp h
    exact ⟨[], [], .last [], rfl, by simp⟩
  | cons t ts ih =>
    have hrest := (balancedFrom_cons_iff.mp h).2
    rw [Token.nesting] at hrest
    by_cases hopen : t.isMark "(" = true
    · rw [if_pos hopen] at hrest
      obtain ⟨part, parts, hcut, hclosed, hparts⟩ := ih (d := d + 1) hrest
      exact ⟨t :: part, parts, hcut.cons t, by rw [isClosed, if_pos hopen, hclosed], hparts⟩
    rw [if_neg hopen] at hrest
    by_cases hclose : t.isMark ")" = true
    · rw [if_pos hclose] at hrest
      cases d with
      | zero => exact absurd hrest (balancedFrom_neg (by decide))
      | succ n =>
        have hcast : ((n + 1 : Nat) : Int) + -1 = (n : Int) := by omega
        obtain ⟨part, parts, hcut, hclosed, hparts⟩ := ih (hcast ▸ hrest)
        refine ⟨t :: part, parts, hcut.cons t, ?_, hparts⟩
        rw [isClosed, if_neg hopen, if_pos hclose, Nat.add_sub_cancel, hclosed]
        simp
    rw [if_neg hclose, Int.add_zero] at hrest
    obtain ⟨part, parts, hcut, hclosed, hparts⟩ := ih hrest
    cases hcomma : t.isMark "," && d == 0 with
    | true =>
      obtain ⟨ht, hd⟩ := (Bool.and_eq_true _ _).mp hcomma
      obtain rfl : d = 0 := by simpa using hd
      exact ⟨[], part :: parts, hcut.nil_cons ht, rfl,
        List.forall_mem_cons.mpr ⟨isItem_iff.mpr hclosed, hparts⟩⟩
    | false =>
      refine ⟨t :: part, parts, hcut.cons t, ?_, hparts⟩
      rw [isClosed, if_neg hopen, if_neg hclose, hcomma, hclosed]
      rfl

theorem exists_splitsInto {body : List Token} (h : Balanced body) :
    ∃ items, SplitsInto (·.isMark ",") IsItem body items := by
  obtain ⟨part, parts, hcut, hclosed, hparts⟩ := exists_cutAt_commas (d := 0) h
  exact ⟨_, part :: parts, hcut, List.forall_mem_cons.mpr ⟨isItem_iff.mpr hclosed, hparts⟩, rfl⟩

section Statement

variable {front body rest : List Token} {name opening closing : Token} {items : List (List Token)}

/-- The items are found up to the closing parenthesis, whatever stands behind it. -/
theorem itemsFrom_of_cutAt (h : CutAt (·.isMark ",") body parts) (hparts : ∀ p ∈ parts, IsItem p)
    (hclosing : closing.isMark ")" = true) (rest : List Token) :
    SourceType.itemsFrom 0 [] (body ++ closing :: rest) = parts := by
  induction h with
  | last part =>
    have hopen : closing.isMark "(" = false := Layout.isMark_eq_false hclosing (by decide)
    rw [itemsFrom_closed (isItem_iff.mp (hparts part (by simp))), List.nil_append, Ddl.itemsFrom_cons,
      if_neg (by simp [hopen]), if_pos hclosing]
  | @cut part ts comma parts hcomma _ ih =>
    rw [List.forall_mem_cons] at hparts
    have hcomma : comma.isMark "," = true := hcomma
    have hopen : comma.isMark "(" = false := Layout.isMark_eq_false hcomma (by decide)
    have hclose : comma.isMark ")" = false := Layout.isMark_eq_false hcomma (by decide)
    rw [List.append_assoc, List.cons_append, itemsFrom_closed (isItem_iff.mp hparts.1), List.nil_append,
      Ddl.itemsFrom_cons, if_neg (by simp [hopen]), if_neg (by simp [hclose]), if_pos (by simp [hcomma]), ih hparts.2]

/-- The tokens up to the name of a table that a statement creates: its first word, the word for a table and whatever
else stands there, and the name, all without parentheses. -/
structure IsHeading (front : List Token) (name : Token) : Prop where
  creates : front.head?.map Token.caseless = some "CREATE"
  kind : "TABLE" ∈ front.map Token.caseless
  plain : ∀ t ∈ front, t.isMark "(" = false ∧ t.isMark ")" = false
  named : isName name = true

theorem items_eq_of_splitsInto (hheading : IsHeading front name) (hopening : opening.isMark "(" = true)
    (h : SplitsInto (·.isMark ",") IsItem body items) (hclosing : closing.isMark ")" = true) :
    SourceType.items (front ++ name :: opening :: (body ++ closing :: rest)) = items := by
  obtain ⟨parts, hcut, hparts, rfl⟩ := h
  rw [SourceType.items, List.dropWhile_append_of_pos (by simpa using fun t ht => (hheading.plain t ht).1),
    List.dropWhile_cons_of_pos (by simp [isMark_of_isName hheading.named]),
    List.dropWhile_cons_of_neg (by simp [hopening]), List.drop_one, List.tail_cons,
    itemsFrom_of_cutAt hcut hparts hclosing]

/-- What the statement creates, if a name for it is found. -/
theorem IsHeading.createdTable?_eq (h : IsHeading front name) (ts : List Token) :
    createdTable? (front ++ name :: ts) = (SourceType.tableName? false none (front ++ name :: ts)).map fun found =>
      (found, SourceType.items (front ++ name :: ts)) := by
  cases front with
  | nil => cases h.creates
  | cons t front =>
    have hcreate : t.caseless = "CREATE" := Option.some.inj h.creates
    rw [List.cons_append, createdTable?, if_pos (by simp [hcreate])]

/-- A name that is found is no word of the statement. -/
theorem exists_of_tableName? {seen : Bool} {found : Option String} {text : String}
    (h : SourceType.tableName? seen found ts = some text) :
    found = some text ∨ ∃ t ∈ ts, t.text = text ∧ t.caseless ∉ "TABLE" :: prefixWords := by
  induction ts generalizing seen found with
  | nil => cases h
  | cons t ts ih =>
    have hlater : (∃ u ∈ ts, u.text = text ∧ u.caseless ∉ "TABLE" :: prefixWords) →
        ∃ u ∈ t :: ts, u.text = text ∧ u.caseless ∉ "TABLE" :: prefixWords :=
      fun ⟨u, hu, hword⟩ => ⟨u, List.mem_cons_of_mem t hu, hword⟩
    rw [SourceType.tableName?] at h
    split_ifs at h with hopen htable hname
    · exact Or.inl h
    · exact (ih h).imp_right hlater
    · rcases ih h with heq | hu
      · refine Or.inr ⟨t, by simp, Option.some.inj heq, ?_⟩
        simp only [Bool.and_eq_true, Bool.not_eq_true', beq_iff_eq] at htable hname
        rw [List.mem_cons, not_or]
        exact ⟨htable, by simpa using hname.2⟩
      · exact Or.inr (hlater hu)
    · exact (ih h).imp_right hlater

/-- The name of the table is found exactly if it does not read as one of the words in front of a name. -/
theorem IsHeading.tableName?_eq_iff (h : IsHeading front name) (hopening : opening.isMark "(" = true) :
    SourceType.tableName? false none (front ++ name :: opening :: ts) = some name.text ↔
      name.caseless ∉ "TABLE" :: prefixWords := by
  constructor
  · intro hfound
    rcases exists_of_tableName? hfound with hnone | ⟨t, -, htext, hword⟩
    · cases hnone
    · have hcaseless : t.caseless = name.caseless := by rw [Token.caseless, htext, Token.caseless]
      rwa [hcaseless] at hword
  · intro hword
    exact Layout.tableName?_front (fun t ht => (h.plain t ht).1) (Or.inr h.kind) h.named hword hopening none

/-- The tokens have items in one way only. -/
theorem SplitsInto.unique {others : List (List Token)} (h : SplitsInto (·.isMark ",") IsItem body items)
    (hothers : SplitsInto (·.isMark ",") IsItem body others) : others = items := by
  obtain ⟨parts, hcut, hparts, rfl⟩ := h
  obtain ⟨parts', hcut', hparts', rfl⟩ := hothers
  have hclosing : (⟨.mark ")", ")", 0, 0, []⟩ : Token).isMark ")" = true := by decide
  rw [← itemsFrom_of_cutAt hcut hparts hclosing [], ← itemsFrom_of_cutAt hcut' hparts' hclosing []]

/-- A table gives the items between its parentheses, in order and as they are cut by the commas outside of further
parentheses, and none of its other tokens; it gives its name with them exactly if the name does not read as one of the
words in front of a name. A script gives its statements as they are cut by its semicolons. -/
theorem splitsInto_items_and_statements (hheading : IsHeading front name) (hopening : opening.isMark "(" = true)
    (hbody : Balanced body) (hclosing : closing.isMark ")" = true) (rest tokens : List Token) :
    (∃ items, SplitsInto (·.isMark ",") IsItem body items ∧
      (∀ others, SplitsInto (·.isMark ",") IsItem body others → others = items) ∧ items.flatten.Sublist body ∧
        (∀ found pieces, createdTable? (front ++ name :: opening :: (body ++ closing :: rest)) =
          some (found, pieces) → pieces = items) ∧
        (createdTable? (front ++ name :: opening :: (body ++ closing :: rest)) = some (name.text, items) ↔
          name.caseless ∉ "TABLE" :: prefixWords)) ∧
      ∀ pieces, SplitsInto (·.isMark ";") IsStatement tokens pieces ↔ pieces = statements tokens := by
  refine ⟨?_, fun pieces => splitsInto_statements_iff⟩
  obtain ⟨items, hitems⟩ := exists_splitsInto hbody
  refine ⟨items, hitems, fun others => hitems.unique, hitems.flatten_sublist, ?_⟩
  rw [hheading.createdTable?_eq, items_eq_of_splitsInto hheading hopening hitems hclosing]
  constructor
  · intro found pieces h
    obtain ⟨_, _, heq⟩ := Option.map_eq_some_iff.mp h
    exact (Prod.mk.inj heq).2.symm
  · have hname : SourceType.tableName? false none (front ++ name :: opening :: (body ++ closing :: rest)) =
        some name.text ↔ name.caseless ∉ "TABLE" :: prefixWords := hheading.tableName?_eq_iff hopening
    rw [← hname]
    cases SourceType.tableName? false none (front ++ name :: opening :: (body ++ closing :: rest)) with
    | none => exact iff_of_false nofun nofun
    | some found => simp

end Statement

def wordAt (text : String) (start : Nat) : Token := ⟨.word, text, start, start + text.length - 1, []⟩

def markAt (symbol : String) (start : Nat) : Token := ⟨.mark symbol, symbol, start, start + symbol.length - 1, []⟩

/-- The heading of `CREATE TABLE IF NOT EXISTS shop.sizes (a DEC(9, 2),, b INT) ENGINE (x, y)`, up to the name. -/
def sizesFront : List Token :=
  [wordAt "CREATE" 0, wordAt "TABLE" 7, wordAt "IF" 13, wordAt "NOT" 16, wordAt "EXISTS" 20, wordAt "shop" 27,
    markAt "." 31]

/-- Its first item, with a comma in parentheses. -/
def sizesAmount : List Token :=
  [wordAt "a" 39, wordAt "DEC" 41, markAt "(" 44, wordAt "9" 45, markAt "," 46, wordAt "2" 48, markAt ")" 49]

/-- Its last item. Between the two, there is an item without tokens. -/
def sizesCount : List Token := [wordAt "b" 53, wordAt "INT" 55]

def sizesBody : List Token := sizesAmount ++ markAt "," 50 :: ([] ++ markAt "," 51 :: sizesCount)

/-- What stands behind the table, with parentheses of its own. -/
def sizesRest : List Token :=
  [wordAt "ENGINE" 60, markAt "(" 67, wordAt "x" 68, markAt "," 69, wordAt "y" 71, markAt ")" 72]

theorem isHeading_sizes : IsHeading sizesFront (wordAt "sizes" 32) where
  creates := by decide +kernel
  kind := by decide +kernel
  plain := by decide
  named := rfl

theorem splitsInto_sizes : SplitsInto (·.isMark ",") IsItem sizesBody [sizesAmount, sizesCount] :=
  ⟨[sizesAmount, [], sizesCount], .cut rfl (.cut rfl (.last _)), by simp only [isItem_iff]; decide, rfl⟩

theorem splitsInto_items_and_statements_sizes : IsHeading sizesFront (wordAt "sizes" 32) ∧ Balanced sizesBody ∧
    createdTable? (sizesFront ++ wordAt "sizes" 32 :: markAt "(" 38 :: (sizesBody ++ markAt ")" 58 :: sizesRest)) =
      some ("sizes", [sizesAmount, sizesCount]) := by
  have hbalanced : Balanced sizesBody := by decide
  have hname : (wordAt "sizes" 32).caseless ∉ "TABLE" :: prefixWords := by decide +kernel
  have hopening : (markAt "(" 38).isMark "(" = true := rfl
  have hclosing : (markAt ")" 58).isMark ")" = true := rfl
  obtain ⟨⟨items, -, hunique, -, -, htable⟩, -⟩ :=
    splitsInto_items_and_statements isHeading_sizes hopening hbalanced hclosing sizesRest []
  obtain rfl := hunique _ splitsInto_sizes
  exact ⟨isHeading_sizes, hbalanced, htable.mpr hname⟩

/-- A table whose name is one of the words in front of a name, in quotation marks. -/
def quotedWord : String := "CREATE TABLE \"exists\" (a INTEGER);"

def quotedWordFront : List Token := [⟨.keyword "CREATE", "CREATE", 0, 5, []⟩, ⟨.keyword "TABLE", "TABLE", 7, 11, []⟩]

def quotedWordName : Token := ⟨.quoted, "exists", 13, 20, []⟩

def quotedWordBody : List Token := [⟨.word, "a", 23, 23, []⟩, ⟨.type "INT", "INTEGER", 25, 31, []⟩]

/-- The tokens of the statement, without the semicolon. -/
def quotedWordChunk : List Token :=
  quotedWordFront ++ quotedWordName :: markAt "(" 22 :: (quotedWordBody ++ markAt ")" 32 :: [])

/-- The name in quotation marks is taken for the word, so that neither the name nor the items are found. -/
theorem createdTable?_quotedWord :
    (Lexer.tokens? .postgresql quotedWord.toList).map statements = some [quotedWordChunk] ∧
      IsHeading quotedWordFront quotedWordName ∧ Balanced quotedWordBody ∧ quotedWordName.text = "exists" ∧
        createdTable? quotedWordChunk = none := by
  have htokens : Lexer.tokens? .postgresql quotedWord.toList = some (quotedWordChunk ++ [markAt ";" 33]) :=
    Script.tokens?_of_plainTokens? (by decide +kernel)
  have hheading : IsHeading quotedWordFront quotedWordName :=
    ⟨by decide +kernel, by decide +kernel, by decide, rfl⟩
  exact ⟨by rw [htokens]; decide, hheading, by decide, rfl, by decide +kernel⟩

end SchemaDesk.Sql

import SchemaDesk.Proofs.Ddl.SourceTypes
import SchemaDesk.Proofs.Extraction.Spelling
/-!
The definition of a table as it stands among the tokens of a script, item by item, beside what the grammar reads there.
Where the two go together, the types that are found by the names of tables and columns are those that stand behind
the columns themselves, with a few exceptions.
-/

namespace SchemaDesk.Sql

open SourceType

/-! ### Statements -/

theorem createdTable?_singleton (t : Token) : createdTable? [t] = none := by
  have hname : SourceType.tableName? false none [t] = none := by
    rw [SourceType.tableName?]
    split_ifs <;> rfl
  rw [createdTable?, hname]
  split <;> rfl

theorem splitOnP_chunks (tokens : List Token) : ∃ chunk chunks parts,
    Grammar.chunks tokens = chunk :: chunks ∧ tokens.splitOnP (·.isMark ";") = chunk :: parts ∧
      chunks.filterMap createdTable? = parts.filterMap createdTable? := by
  induction tokens with
  | nil => exact ⟨[], [], [], rfl, rfl, rfl⟩
  | cons t ts ih =>
    obtain ⟨chunk, chunks, parts, hchunks, hparts, hsame⟩ := ih
    rw [Grammar.chunks, List.splitOnP_cons_eq_if_modifyHead]
    by_cases ht : t.isMark ";" = true
    · rw [if_pos ht, if_pos ht]
      refine ⟨[], (if !t.comments.isEmpty then [[t]] else []) ++ (if ts.isEmpty then [] else Grammar.chunks ts), _, rfl,
        rfl, ?_⟩
      -- a semicolon with comments is a chunk of its own, but no table
      have hsemicolon : (if !t.comments.isEmpty then [[t]] else []).filterMap createdTable? = [] := by
        split
        · rw [List.filterMap_cons_none (createdTable?_singleton t), List.filterMap_nil]
        · rfl
      have hrest : (if ts.isEmpty then [] else Grammar.chunks ts).filterMap createdTable? =
          (ts.splitOnP (·.isMark ";")).filterMap createdTable? := by
        rw [hparts, List.filterMap_cons, ← hsame, ← List.filterMap_cons]
        cases ts with
        | nil =>
          obtain ⟨rfl, rfl⟩ := List.cons.inj hchunks
          rfl
        | cons u us => rw [hchunks]; rfl
      rw [List.filterMap_append, hsemicolon, hrest, List.nil_append]
    · rw [if_neg ht, if_neg ht, hchunks, hparts]
      exact ⟨t :: chunk, chunks, parts, rfl, rfl, hsame⟩

/-- The tables that are found in a script are those of its statements, one by one. -/
theorem filterMap_statements (tokens : List Token) :
    (statements tokens).filterMap createdTable? = (Grammar.chunks tokens).filterMap createdTable? := by
  obtain ⟨chunk, chunks, parts, hchunks, hparts, hsame⟩ := splitOnP_chunks tokens
  have hempty (us : List (List Token)) :
      (us.filter fun s => !s.isEmpty).filterMap createdTable? = us.filterMap createdTable? := by
    induction us with
    | nil => rfl
    | cons s us ih => cases s <;> simp [List.filterMap_cons, ih, createdTable?]
  rw [statements, hempty, hparts, hchunks, List.filterMap_cons, List.filterMap_cons, hsame]

/-! ### Definitions of columns -/

/-- The words behind the name of a column up to the first word that belongs to no type. What stands in parentheses or
between brackets is left out. -/
def ownWords (parentheses brackets : Nat) : List Token → List String
  | [] => []
  | t :: ts =>
    if t.isMark "(" then ownWords (parentheses + 1) brackets ts
    else if t.isMark ")" then ownWords (parentheses - 1) brackets ts
    else if 0 < parentheses then ownWords parentheses brackets ts
    else if t.isMark "[" then ownWords parentheses (brackets + 1) ts
    else if t.isMark "]" then ownWords parentheses (brackets - 1) ts
    else if 0 < brackets then ownWords parentheses brackets ts
    else if stopWords.contains t.caseless then []
    else t.text :: ownWords parentheses brackets ts

/-- Some bound stands between the brackets of the type. -/
def hasBound (parentheses brackets : Nat) : List Token → Bool
  | [] => false
  | t :: ts =>
    if t.isMark "(" then hasBound (parentheses + 1) brackets ts
    else if t.isMark ")" then hasBound (parentheses - 1) brackets ts
    else if 0 < parentheses then hasBound parentheses brackets ts
    else if t.isMark "[" then hasBound parentheses (brackets + 1) ts
    else if t.isMark "]" then hasBound parentheses (brackets - 1) ts
    else if 0 < brackets then true
    else if stopWords.contains t.caseless then false
    else hasBound parentheses brackets ts

/-- Every parenthesis is closed, and no comma stands outside of parentheses; so many parentheses are open. -/
def isClosed (depth : Nat) : List Token → Bool
  | [] => depth == 0
  | t :: ts =>
    if t.isMark "(" then isClosed (depth + 1) ts
    else if t.isMark ")" then 0 < depth && isClosed (depth - 1) ts
    else !(t.isMark "," && depth == 0) && isClosed depth ts

/-- Without bounds, the words that are found are those of the type. -/
theorem typeWords_eq_ownWords {depth brackets : Nat} {ts : List Token} (hclosed : isClosed depth ts = true)
    (hbound : hasBound depth brackets ts = false) : typeWords depth ts = ownWords depth brackets ts := by
  induction ts generalizing depth brackets with
  | nil => rfl
  | cons t ts ih =>
    rw [isClosed] at hclosed
    rw [hasBound] at hbound
    rw [typeWords, ownWords]
    by_cases hopen : t.isMark "(" = true
    · rw [if_pos hopen] at hclosed hbound ⊢
      rw [if_pos hopen, ← ih hclosed hbound]
      rfl
    rw [if_neg hopen] at hclosed hbound ⊢
    rw [if_neg hopen]
    by_cases hclose : t.isMark ")" = true
    · rw [if_pos hclose] at hclosed hbound ⊢
      rw [if_pos hclose]
      obtain ⟨hdepth, hclosed⟩ := (Bool.and_eq_true _ _).mp hclosed
      have hcast : ((depth - 1 : Nat) : Int) = (depth : Int) - 1 := Int.ofNat_sub (of_decide_eq_true hdepth)
      rw [← hcast, ih hclosed hbound]
    rw [if_neg hclose] at hclosed hbound ⊢
    rw [if_neg hclose]
    obtain ⟨-, hclosed⟩ := (Bool.and_eq_true _ _).mp hclosed
    by_cases hdepth : 0 < depth
    · rw [if_pos hdepth] at hbound ⊢
      rw [if_pos (by simp [hdepth]), ih hclosed hbound]
    rw [if_neg hdepth] at hbound ⊢
    by_cases hopens : t.isMark "[" = true
    · rw [if_pos hopens] at hbound ⊢
      rw [if_pos (by simp [hopens]), ih hclosed hbound]
    rw [if_neg hopens] at hbound ⊢
    by_cases hcloses : t.isMark "]" = true
    · rw [if_pos hcloses] at hbound ⊢
      rw [if_pos (by simp [hcloses]), ih hclosed hbound]
    rw [if_neg hcloses] at hbound ⊢
    by_cases hbrackets : 0 < brackets
    · rw [if_pos hbrackets] at hbound
      cases hbound
    rw [if_neg hbrackets] at hbound ⊢
    rw [if_neg (by simp [hdepth, hopens, hcloses])]
    by_cases hstop : stopWords.contains t.caseless = true
    · rw [if_pos hstop, if_pos hstop]
    · rw [if_neg hstop] at hbound ⊢
      rw [if_neg hstop, ih hclosed hbound]

/-- What is closed belongs to one item. -/
theorem itemsFrom_closed {depth : Nat} {us : List Token} (h : isClosed depth us = true) (current ts : List Token) :
    itemsFrom depth current (us ++ ts) = itemsFrom 0 (current ++ us) ts := by
  induction us generalizing depth current with
  | nil =>
    obtain rfl : depth = 0 := by simpa [isClosed] using h
    rw [List.nil_append, List.append_nil]
  | cons u us ih =>
    rw [isClosed] at h
    rw [List.cons_append, Ddl.itemsFrom_cons]
    have happend : current ++ u :: us = (current ++ [u]) ++ us := by rw [List.append_assoc, List.singleton_append]
    rw [happend]
    by_cases hopen : u.isMark "(" = true
    · rw [if_pos hopen] at h ⊢
      exact ih h _
    rw [if_neg hopen] at h ⊢
    by_cases hclose : u.isMark ")" = true
    · rw [if_pos hclose] at h ⊢
      obtain ⟨hdepth, h⟩ := (Bool.and_eq_true _ _).mp h
      obtain ⟨n, rfl⟩ : ∃ n, depth = n + 1 := Nat.exists_eq_succ_of_ne_zero (Nat.ne_of_gt (of_decide_eq_true hdepth))
      exact ih h _
    rw [if_neg hclose] at h ⊢
    obtain ⟨hcomma, h⟩ := (Bool.and_eq_true _ _).mp h
    rw [Bool.not_eq_true', ← Bool.not_eq_true] at hcomma
    rw [if_neg hcomma]
    exact ih h _

/-- The token may be a name: it is no mark. -/
def isName (t : Token) : Bool :=
  match t.kind with
  | .mark _ => false
  | _ => true

theorem isMark_of_isName {t : Token} (h : isName t = true) (m : String) : t.isMark m = false := by
  rw [Token.isMark_eq]
  refine decide_eq_false fun hkind => ?_
  rw [isName, hkind] at h
  cases h

/-- The rule lets the column count up. -/
def ColumnConstraint.counts (k : ColumnConstraint) : Bool :=
  match k.rule with
  | some .autoIncrement => true
  | _ => false

/-- A column as it is written, by the tokens of its name and of what stands behind, and as it is read. -/
structure ColumnEntry where
  name : Token
  rest : List Token
  read : Expr
  type : Option TypeExpr
  constraints : List ColumnConstraint

namespace ColumnEntry

def tokens (c : ColumnEntry) : List Token := c.name :: c.rest

def item (c : ColumnEntry) : TableItem := .column c.read c.type c.constraints

/-- The words of the type. -/
def spelling (c : ColumnEntry) : String := " ".intercalate (ownWords 0 0 c.rest)

/-- The type that the definition says. An integer column that counts up is a serial one. -/
def ownType (c : ColumnEntry) : ColumnType :=
  let t := ColumnType.ofSpelling c.spelling
  if c.constraints.any (·.counts) then t.serialOf?.getD t else t

/-- The name is the one that is read, and a type is read only where words for it stand. -/
structure IsValid (c : ColumnEntry) : Prop where
  named : isName c.name = true
  closed : isClosed 0 c.rest = true
  name_eq : c.read.plainName = c.name.text
  typed : c.type.isSome → c.spelling ≠ ""

end ColumnEntry

/-- What stands between two commas: a column, or what is read as something else. -/
inductive TableEntry
  | column (c : ColumnEntry)
  | other (tokens : List Token) (items : List TableItem)

namespace TableEntry

def tokens : TableEntry → List Token
  | column c => c.tokens
  | other tokens _ => tokens

def items : TableEntry → List TableItem
  | column c => [c.item]
  | other _ items => items

def IsValid : TableEntry → Prop
  | column c => c.IsValid
  | other tokens items => isClosed 0 tokens = true ∧ ∀ item ∈ items, ∀ name type constraints,
      item ≠ .column name type constraints

theorem IsValid.closed {e : TableEntry} (h : e.IsValid) : isClosed 0 e.tokens = true := by
  cases e with
  | column c =>
    have hc : c.IsValid := h
    rw [tokens, ColumnEntry.tokens, isClosed]
    simpa [isMark_of_isName hc.named] using hc.closed
  | other tokens items => exact h.1

end TableEntry

/-- A table as it stands among the tokens: the words up to its name, its entries between parentheses, and the rest. -/
structure Layout where
  front : List Token
  name : Token
  opening : Token
  first : TableEntry
  more : List (Token × TableEntry)
  closing : Token
  rest : List Token

namespace Layout

def entries (l : Layout) : List TableEntry := l.first :: l.more.map (·.2)

def tokens (l : Layout) : List Token :=
  l.front ++ l.name :: l.opening ::
    (l.first.tokens ++ (l.more.flatMap (fun e => e.1 :: e.2.tokens) ++ l.closing :: l.rest))

/-- The tokens are laid out as the grammar reads them: the word that creates the table, its name, and its items. -/
structure IsOf (l : Layout) (chunk : List Token) (table : TableName) (items : List TableItem) : Prop where
  tokens_eq : l.tokens = chunk
  creates : l.front.head?.map Token.caseless = some "CREATE"
  kind : "TABLE" ∈ l.front.map Token.caseless
  plain : ∀ t ∈ l.front, t.isMark "(" = false
  name_eq : table.name.text = l.name.text
  named : isName l.name = true
  opens : l.opening.isMark "(" = true
  closes : l.closing.isMark ")" = true
  commas : ∀ e ∈ l.more, e.1.isMark "," = true
  entries : ∀ e ∈ l.entries, e.IsValid
  items_eq : l.entries.flatMap TableEntry.items = items

variable {l : Layout} {chunk : List Token} {table : TableName} {items : List TableItem}

theorem isMark_eq_false {t : Token} {m n : String} (h : t.isMark m = true) (hne : m ≠ n) : t.isMark n = false := by
  rw [Token.isMark_eq] at h ⊢
  rw [of_decide_eq_true h]
  simpa using hne

/-- The entries are found as items. -/
theorem itemsFrom_entries {first : TableEntry} {more : List (Token × TableEntry)} (hfirst : first.IsValid)
    (hmore : ∀ e ∈ more, e.1.isMark "," = true ∧ e.2.IsValid) {closing : Token} (hclosing : closing.isMark ")" = true)
    (rest : List Token) :
    itemsFrom 0 [] (first.tokens ++ (more.flatMap (fun e => e.1 :: e.2.tokens) ++ closing :: rest)) =
      (first :: more.map (·.2)).map TableEntry.tokens := by
  induction more generalizing first with
  | nil =>
    have hopen : closing.isMark "(" = false := isMark_eq_false hclosing (by decide)
    simp only [itemsFrom_closed hfirst.closed, List.flatMap_nil, List.nil_append, Ddl.itemsFrom_cons, hopen, hclosing,
      Bool.false_eq_true, if_false, if_true, List.map_cons, List.map_nil]
  | cons e more ih =>
    rw [List.forall_mem_cons] at hmore
    obtain ⟨⟨hcomma, hentry⟩, hmore⟩ := hmore
    have hopen : e.1.isMark "(" = false := isMark_eq_false hcomma (by decide)
    have hclose : e.1.isMark ")" = false := isMark_eq_false hcomma (by decide)
    rw [itemsFrom_closed hfirst.closed, List.flatMap_cons, List.cons_append, List.cons_append, Ddl.itemsFrom_cons,
      if_neg (by simp [hopen]), if_neg (by simp [hclose]), if_pos (by simp [hcomma]), List.append_assoc,
      ih hentry hmore]
    rfl

/-- The last name in front of the parenthesis is found, unless it looks like a word of the statement. -/
theorem tableName?_front {front : List Token} {name opening : Token} {ts : List Token} {seen : Bool}
    (hfront : ∀ t ∈ front, t.isMark "(" = false) (hseen : seen = true ∨ "TABLE" ∈ front.map Token.caseless)
    (hname : isName name = true) (hplain : name.caseless ∉ "TABLE" :: prefixWords)
    (hopening : opening.isMark "(" = true) (found : Option String) :
    SourceType.tableName? seen found (front ++ name :: opening :: ts) = some name.text := by
  induction front generalizing seen found with
  | nil =>
    obtain rfl : seen = true := hseen.resolve_right nofun
    rw [List.mem_cons, not_or] at hplain
    obtain ⟨htable, hprefix⟩ := hplain
    rw [List.nil_append, SourceType.tableName?, if_neg (by simp [isMark_of_isName hname]), if_neg (by simp [htable]),
      if_pos (by simp [isMark_of_isName hname, hprefix]), SourceType.tableName?, if_pos hopening]
  | cons t front ih =>
    rw [List.forall_mem_cons] at hfront
    obtain ⟨ht, hfront⟩ := hfront
    rw [List.cons_append, SourceType.tableName?, if_neg (by simp [ht])]
    by_cases htable : t.caseless = "TABLE"
    · rw [if_pos (by simp [htable])]
      exact ih hfront (Or.inl rfl) _
    rw [if_neg (by simp [htable])]
    have hseen : seen = true ∨ "TABLE" ∈ front.map Token.caseless :=
      hseen.imp_right fun h => (List.mem_cons.mp h).resolve_left (Ne.symm htable)
    split
    · exact ih hfront hseen _
    · exact ih hfront hseen _

/-- The table is found with its entries. -/
theorem IsOf.createdTable?_eq (h : l.IsOf chunk table items) (hplain : l.name.caseless ∉ "TABLE" :: prefixWords) :
    createdTable? chunk = some (l.name.text, (l.entries.map TableEntry.tokens).filter fun i => !i.isEmpty) := by
  rw [← h.tokens_eq, tokens]
  have hname : SourceType.tableName? false none (l.front ++ l.name :: l.opening ::
      (l.first.tokens ++ (l.more.flatMap (fun e => e.1 :: e.2.tokens) ++ l.closing :: l.rest))) = some l.name.text :=
    tableName?_front h.plain (Or.inr h.kind) h.named hplain h.opens none
  have hentries : l.first.IsValid ∧ ∀ e ∈ l.more, e.1.isMark "," = true ∧ e.2.IsValid := by
    obtain ⟨hfirst, hmore⟩ := List.forall_mem_cons.mp h.entries
    exact ⟨hfirst, fun e he => ⟨h.commas e he, hmore _ (List.mem_map_of_mem he)⟩⟩
  have hitems : SourceType.items (l.front ++ l.name :: l.opening ::
      (l.first.tokens ++ (l.more.flatMap (fun e => e.1 :: e.2.tokens) ++ l.closing :: l.rest))) =
      (l.entries.map TableEntry.tokens).filter fun i => !i.isEmpty := by
    rw [SourceType.items, List.dropWhile_append_of_pos (by simpa using h.plain),
      List.dropWhile_cons_of_pos (by simp [isMark_of_isName h.named]),
      List.dropWhile_cons_of_neg (by simp [h.opens]), List.drop_one, List.tail_cons,
      itemsFrom_entries hentries.1 hentries.2 h.closes]
    rfl
  obtain ⟨t, front, hfront⟩ : ∃ t front, l.front = t :: front := by
    refine List.exists_cons_of_ne_nil fun hnil => ?_
    have hcreates := h.creates
    rw [hnil] at hcreates
    cases hcreates
  have hcreate : t.caseless = "CREATE" := by
    have hcreates := h.creates
    rw [hfront] at hcreates
    exact Option.some.inj hcreates
  rw [hfront, List.cons_append] at hname hitems ⊢
  rw [createdTable?, if_pos (by simp [hcreate]), hname, hitems]
  rfl

/-! ### Columns in their places -/

/-- The columns among the entries, each with the entries before it. -/
def placed (earlier : List TableEntry) : List TableEntry → List (List TableEntry × ColumnEntry)
  | [] => []
  | .column c :: es => (earlier, c) :: placed (earlier ++ [.column c]) es
  | .other tokens items :: es => placed (earlier ++ [.other tokens items]) es

def columns (l : Layout) : List (List TableEntry × ColumnEntry) := placed [] l.entries

theorem exists_of_mem_placed {es earlier : List TableEntry} {p : List TableEntry × ColumnEntry}
    (h : p ∈ placed earlier es) :
    ∃ before after, es = before ++ .column p.2 :: after ∧ p.1 = earlier ++ before := by
  induction es generalizing earlier with
  | nil => cases h
  | cons e es ih =>
    have hrest (h : p ∈ placed (earlier ++ [e]) es) :
        ∃ before after, e :: es = before ++ .column p.2 :: after ∧ p.1 = earlier ++ before := by
      obtain ⟨before, after, rfl, hearlier⟩ := ih h
      exact ⟨e :: before, after, rfl, by rw [hearlier, List.append_assoc, List.singleton_append]⟩
    cases e with
    | column c =>
      rcases List.mem_cons.mp h with rfl | h
      · exact ⟨[], es, rfl, by rw [List.append_nil]⟩
      · exact hrest h
    | other tokens items => exact hrest h

/-- The type of a column is found, if nothing is taken for something else: the name of the table is no word of the
statement and no earlier statement has such a table, the name of the column starts no other item and no earlier entry
has such a column, and the words of the type have no bounds and no brackets among them. -/
structure IsFound (before : List (List Token)) (l : Layout) (earlier : List TableEntry) (c : ColumnEntry) : Prop where
  table : l.name.caseless ∉ "TABLE" :: prefixWords
  first : ∀ chunk ∈ before, ∀ p ∈ createdTable? chunk, Text.lower p.1 ≠ Text.lower l.name.text
  column : c.name.caseless ∉ itemWords
  unrepeated : ∀ e ∈ earlier, ∀ p ∈ column? e.tokens, p.1 ≠ Text.lower c.name.text
  unbounded : hasBound 0 0 c.rest = false
  plain : ColumnType.IsPlain c.spelling

theorem lookup_append_cons {α : Type} {before after : List (String × α)} {name : String} {x : α}
    (h : ∀ p ∈ before, p.1 ≠ name) : (before ++ (name, x) :: after).lookup name = some x := by
  have hnone : before.lookup name = none :=
    List.lookup_eq_none_iff.mpr fun p hp => bne_iff_ne.mpr (h p hp).symm
  rw [List.lookup_append, hnone, List.lookup_cons, beq_self_eq_true]
  rfl

theorem column?_tokens {c : ColumnEntry} (hvalid : c.IsValid) (htype : c.type.isSome)
    (hname : c.name.caseless ∉ itemWords) (hbound : hasBound 0 0 c.rest = false) :
    column? c.tokens = some (Text.lower c.name.text, c.spelling) := by
  have hspelling := hvalid.typed htype
  have htext : typeText c.rest = c.spelling := by
    have hwords := typeWords_eq_ownWords hvalid.closed hbound
    rw [typeText, ColumnEntry.spelling, ← hwords]
    rfl
  have hne : c.rest.isEmpty = false := by
    cases hrest : c.rest with
    | nil => rw [ColumnEntry.spelling, hrest] at hspelling; exact (hspelling rfl).elim
    | cons t ts => rfl
  rw [ColumnEntry.tokens, column?, if_neg (by simp [hne, hname]), htext]
  simp [hspelling]

theorem filterMap_nonempty (us : List (List Token)) :
    (us.filter fun i => !i.isEmpty).filterMap column? = us.filterMap column? := by
  induction us with
  | nil => rfl
  | cons s us ih => cases s <;> simp [List.filterMap_cons, ih, column?]

/-- The type that is found for a column is its own. -/
theorem IsOf.ofColumn?_eq (h : l.IsOf chunk table items) {tokens : List Token} {before after : List (List Token)}
    (hchunks : Grammar.chunks tokens = before ++ chunk :: after) {p : List TableEntry × ColumnEntry}
    (hp : p ∈ l.columns) (htype : p.2.type.isSome) (hfound : IsFound before l p.1 p.2) :
    ofColumn? (ofTable (SourceType.all tokens) table.name.text) p.2.read.plainName = some p.2.spelling := by
  obtain ⟨earlier, later, hentries, hearlier⟩ := exists_of_mem_placed hp
  rw [List.nil_append] at hearlier
  have hvalid : p.2.IsValid := h.entries (.column p.2) (by simp [hentries])
  have htable : (SourceType.all tokens).lookup (Text.lower l.name.text) =
      some ((l.entries.map TableEntry.tokens).filterMap column?) := by
    rw [SourceType.all, filterMap_statements, hchunks, List.filterMap_append,
      List.filterMap_cons_some (h.createdTable?_eq hfound.table), List.map_append, List.map_cons]
    dsimp only
    rw [filterMap_nonempty]
    refine lookup_append_cons fun q hq => ?_
    obtain ⟨r, hr, rfl⟩ := List.mem_map.mp hq
    obtain ⟨other, hother, hcreated⟩ := List.mem_filterMap.mp hr
    exact hfound.first other hother r hcreated
  have hcolumn : column? (TableEntry.column p.2).tokens = some (Text.lower p.2.name.text, p.2.spelling) :=
    column?_tokens hvalid htype hfound.column hfound.unbounded
  rw [ofTable, h.name_eq, htable, Option.getD_some, ofColumn?, hvalid.name_eq, hentries, List.map_append, List.map_cons,
    List.filterMap_append, List.filterMap_cons_some hcolumn]
  refine lookup_append_cons fun q hq => ?_
  obtain ⟨us, hus, hcolumn⟩ := List.mem_filterMap.mp hq
  obtain ⟨e, he, rfl⟩ := List.mem_map.mp hus
  exact hfound.unrepeated e (hearlier ▸ he) q hcolumn

end Layout

end SchemaDesk.Sql

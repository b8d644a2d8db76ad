import SchemaDesk.Proofs.Ddl.AlterationReading
/-!
Whole scripts: lines of notes, empty lines and definitions, each on lines of its own. The tokens of a
script are those of its definitions; the notes are comments of the word behind them.
-/

namespace SchemaDesk.Ddl

open Sql Sql.Reader Sql.Grammar Sql.Cursor

inductive Definition
  | table (t : CreateTable)
  | key (k : AddKey)

/-- What stands on lines of its own. -/
inductive Entry
  | gap
  | note (text : List Char)
  | definition (x : Definition)

namespace Definition

def lexemes : Definition → List Lexeme
  | table t => t.lexemes
  | key k => k.lexemes

def IsValid (d : Dialect) : Definition → Prop
  | table t => t.IsValid d
  | key k => k.IsValid d

/-- The first word. -/
def word : Definition → String
  | table _ => "CREATE"
  | key _ => "ALTER"

/-- The shapes behind the first word, up to the semicolon. -/
def bodyShapes : Definition → List TokenShape
  | table t => t.bodyShapes
  | key k => k.bodyShapes

def IsChunk (x : Definition) (us : List Token) : Prop := IsChunkOf x.word x.bodyShapes us

theorem cuts {d : Dialect} {x : Definition} (hx : x.IsValid d) (rest : List Char) :
    Lexeme.Cuts d x.lexemes rest := by
  cases x with
  | table t => exact CreateTable.cuts hx rest
  | key k => exact AddKey.cuts hx rest

end Definition

/-! ### Definitions have no comments and no semicolons inside -/

/-- Neither a semicolon nor a word behind which all is one text. -/
def isInnerKind : TokenKind → Bool
  | .mark m => m != ";"
  | .keyword w => !(["COMMAND", "EXECUTE", "FETCH", "RENAME", "SHOW", "REPLACE"].contains w)
  | _ => true

/-- Neither a comment nor the end of a definition. -/
def isInner : Lexeme → Bool
  | .blank _ => true
  | .comment _ _ => false
  | .token k _ _ => isInnerKind k

theorem swallows_eq_false {d : Dialect} {t : Token}
    (h : isInnerKind t.kind = true ∨ t.kind = .mark ";") : Lexer.swallows d t = false := by
  rw [Lexer.swallows]
  split
  · next w hkind =>
    rw [hkind, or_iff_left (by simp)] at h
    simp only [isInnerKind, List.contains_cons, List.contains_nil, Bool.or_false, Bool.not_eq_true',
      Bool.or_eq_false_iff] at h
    simp [h]
  · rfl

def Inner (ls : List Lexeme) : Prop := ∀ l ∈ ls, isInner l = true

@[simp] theorem inner_nil : Inner [] := nofun

@[simp] theorem inner_cons {l : Lexeme} {ls : List Lexeme} :
    Inner (l :: ls) ↔ isInner l = true ∧ Inner ls := List.forall_mem_cons

@[simp] theorem inner_append {ls ms : List Lexeme} : Inner (ls ++ ms) ↔ Inner ls ∧ Inner ms :=
  List.forall_mem_append

theorem inner_flatMap {α : Type} {xs : List α} {f : α → List Lexeme} (h : ∀ x ∈ xs, Inner (f x)) :
    Inner (xs.flatMap f) := fun l hl =>
  let ⟨x, hx, hlx⟩ := List.mem_flatMap.mp hl
  h x hx l hlx

@[simp] theorem inner_blank (c : Char) : isInner (.blank c) = true := rfl

@[simp] theorem inner_verbatim (k : TokenKind) (s : String) :
    isInner (.verbatim k s) = isInnerKind k := rfl

@[simp] theorem inner_comma : isInner (.mark ',') = true := rfl

@[simp] theorem inner_opening : isInner (.mark '(') = true := rfl

@[simp] theorem inner_closing : isInner (.mark ')') = true := rfl

@[simp] theorem inner_minus : isInner (.mark '-') = true := rfl

@[simp] theorem inner_number (digits : List Char) : isInner (.number digits) = true := rfl

@[simp] theorem inner_text (content : List Char) : isInner (.text content) = true := rfl

@[simp] theorem inner_margin : Inner margin := by simp [margin]

@[simp] theorem Literal.inner (x : Literal) : Inner x.lexemes := by
  cases x with
  | number negative digits => cases negative <;> simp [lexemes]
  | text content => simp [lexemes]
  | bool b => cases b <;> simp [lexemes, isInnerKind]
  | null | now => simp [lexemes, isInnerKind]

theorem TypeWords.inner {d : Dialect} {t : TypeWords} (ht : t.IsKnown d) : Inner t.lexemes := by
  have hnumbers : Inner (numberLexemes t.numbers) := by
    cases t.numbers with
    | nil => simp [numberLexemes]
    | cons n ns => simpa [numberLexemes] using inner_flatMap fun m _ => by simp
  have hkind : isInnerKind t.kind = true := by
    rcases form_cases ht with ⟨name, h, -⟩ | ⟨h, -⟩ | ⟨h, -⟩ <;> rw [h] <;> rfl
  simpa [lexemes, hkind] using hnumbers

@[simp] theorem Clause.inner (c : Clause) : Inner c.lexemes := by
  cases c with
  | counts underscore => cases underscore <;> simp [lexemes, isInnerKind]
  | key | notNull | unique | uniqueDefault | null | default x => simp [lexemes, isInnerKind]

theorem Line.inner {d : Dialect} {x : Line} (hx : x.IsValid d) : Inner x.lexemes := by
  cases x with
  | column name type clauses =>
    have hclauses : Inner (clauses.flatMap fun c => .blank ' ' :: c.lexemes) :=
      inner_flatMap fun c _ => by simp
    simpa [lexemes, isInnerKind, hclauses] using TypeWords.inner hx.2.1
  | key first more =>
    simpa [lexemes, nameLexemes, isInnerKind] using inner_flatMap fun s _ => by simp [isInnerKind]

@[simp] theorem inner_action (e : Event) (a : Option ReferentialAction) :
    Inner (actionLexemes e a) := by
  obtain - | a := a
  · simp [actionLexemes]
  · have hwords : ∀ w ∈ actionWords a, isInnerKind w.2 = true := by cases a <;> decide
    have hevent : isInnerKind (.keyword e.name) = true := by cases e <;> decide
    have hon : isInnerKind (.keyword "ON") = true := rfl
    simpa [actionLexemes, hon, hevent] using inner_flatMap fun w hw => by simp [hwords w hw]

/-! ### The shapes of definitions -/

theorem CreateTable.filterMap_lineLexemes (first : Line) (more : List Line) :
    (lineLexemes first more).filterMap Lexeme.shape? =
      first.shapes ++ more.flatMap (fun x => .comma :: x.shapes) ++ [.closing] := by
  have hmore : (more.flatMap fun x => Lexeme.mark ',' :: (margin ++ x.lexemes)).filterMap Lexeme.shape? =
      more.flatMap fun x => .comma :: x.shapes := by
    rw [List.filterMap_flatMap]
    rfl
  simp only [lineLexemes, List.filterMap_append, hmore, List.append_assoc]
  rfl

theorem filterMap_action (e : Event) (a : Option ReferentialAction) :
    (actionLexemes e a).filterMap Lexeme.shape? =
      (a.toList.map fun a => (e, a)).flatMap actionShapes := by
  cases a with
  | none => rfl
  | some a => cases a <;> rfl

namespace Definition

/-- A definition is its first word, its body and a semicolon. -/
theorem exists_body {d : Dialect} {x : Definition} (hx : x.IsValid d) : ∃ ls, x.lexemes =
      .verbatim (.keyword x.word) x.word :: (ls ++ [.mark ';']) ∧ Inner ls ∧
      ls.filterMap Lexeme.shape? = x.bodyShapes := by
  cases x with
  | table t =>
    refine ⟨[.blank ' ', .verbatim (.keyword "TABLE") "TABLE", .blank ' ', .verbatim .word t.name,
      .blank ' ', .mark '('] ++ CreateTable.lineLexemes t.first t.more, by
      simp [lexemes, CreateTable.lexemes, word], ?_, ?_⟩
    · have hfirst : Inner t.first.lexemes := Line.inner (hx.2 t.first (by simp))
      have hmore : Inner (t.more.flatMap fun x => .mark ',' :: (margin ++ x.lexemes)) :=
        inner_flatMap fun x hmem => by simpa using Line.inner (hx.2 x (by simp [hmem]))
      simp [CreateTable.lineLexemes, isInnerKind, hfirst, hmore]
    · rw [List.filterMap_append, CreateTable.filterMap_lineLexemes]
      rfl
  | key k =>
    refine ⟨k.frontLexemes.tail ++ (k.referenceLexemes ++
      (actionLexemes .delete k.onDelete ++ actionLexemes .update k.onUpdate)), by
      simp [lexemes, AddKey.lexemes, AddKey.frontLexemes, word], ?_, ?_⟩
    · simp [AddKey.frontLexemes, AddKey.referenceLexemes, isInnerKind]
    · simp only [List.filterMap_append, filterMap_action, ← List.flatMap_append, bodyShapes,
        AddKey.bodyShapes, AddKey.ruleShapes, AddKey.keyShapes, referenceShapes, AddKey.actions,
        enclosedShapes, AddKey.referenceLexemes, AddKey.frontLexemes]
      rfl

end Definition

/-! ### The layout of scripts -/

namespace Entry

def lexemes : Entry → List Lexeme
  | gap => []
  | note text => [.lineComment text]
  | definition x => x.lexemes

/-- A note is a single line. -/
def IsValid (d : Dialect) : Entry → Prop
  | gap => True
  | note text => ∀ c ∈ text, c ≠ '\n' ∧ c ≠ '\r'
  | definition x => x.IsValid d

/-- The lexemes of entries behind others. -/
def restLexemes (es : List Entry) : List Lexeme := es.flatMap fun e => .blank '\n' :: e.lexemes

def definition? : Entry → Option Definition
  | definition x => some x
  | _ => none

theorem cuts {d : Dialect} {e : Entry} (he : e.IsValid d) {rest : List Char}
    (hrest : ∀ c ∈ rest.head?, c = '\n') : Lexeme.Cuts d e.lexemes rest := by
  cases e with
  | gap => trivial
  | note text => exact ⟨Lexeme.lineComment_cutBefore he hrest, trivial⟩
  | definition x => exact Definition.cuts he rest

theorem head_restLexemes (es : List Entry) :
    ∀ c ∈ (Lexeme.allWritten (restLexemes es) ++ []).head?, c = '\n' := by
  cases es with
  | nil => simp [restLexemes]
  | cons e es => simp [restLexemes, Lexeme.written]

theorem cuts_rest {d : Dialect} {es : List Entry} (h : ∀ e ∈ es, e.IsValid d) :
    Lexeme.Cuts d (restLexemes es) [] := by
  induction es with
  | nil => trivial
  | cons e es ih =>
    have hrest := ih fun x hx => h x (by simp [hx])
    exact Lexeme.Cuts.append ⟨Lexeme.blank_cutBefore (by decide) _,
      cuts (h e (by simp)) (head_restLexemes es)⟩ hrest

/-! ### Where the notes go -/

/-- Behind a definition no note waits. -/
theorem settled_append {ls ms : List Lexeme} (hls : Inner ls)
    (hms : ∀ fresh, Lexeme.Settled fresh false ms) : ∀ fresh, Lexeme.Settled fresh false (ls ++ ms) := by
  induction ls with
  | nil => exact hms
  | cons l ls ih =>
    obtain ⟨hl, htail⟩ := inner_cons.mp hls
    intro fresh
    cases l with
    | blank c => exact ih htail _
    | comment s cs => cases hl
    | token k s cs => exact ⟨fun _ => rfl, ih htail _⟩

theorem settled_definition {d : Dialect} {x : Definition} (hx : x.IsValid d) {ls : List Lexeme}
    (hls : ∀ fresh, Lexeme.Settled fresh false ls) (fresh pending : Bool) :
    Lexeme.Settled fresh pending (x.lexemes ++ ls) := by
  obtain ⟨body, hlexemes, hbody, -⟩ := Definition.exists_body hx
  have hsemicolon : ∀ fresh, Lexeme.Settled fresh false (.mark ';' :: ls) :=
    fun _ => ⟨fun _ => rfl, hls false⟩
  rw [hlexemes, List.cons_append, List.append_assoc]
  exact ⟨nofun, settled_append hbody hsemicolon false⟩

theorem settled_entry {d : Dialect} {e : Entry} (he : e.IsValid d) {ls : List Lexeme}
    (hls : ∀ fresh pending, Lexeme.Settled fresh pending ls) (pending : Bool) :
    Lexeme.Settled true pending (e.lexemes ++ ls) := by
  cases e with
  | gap => exact hls true pending
  | note text => exact ⟨rfl, hls true true⟩
  | definition x => exact settled_definition he (fun fresh => hls fresh false) true pending

theorem settled_rest {d : Dialect} {es : List Entry} (h : ∀ e ∈ es, e.IsValid d) :
    ∀ fresh pending, Lexeme.Settled fresh pending (restLexemes es) := by
  induction es with
  | nil => exact fun _ _ => trivial
  | cons e es ih =>
    intro fresh pending
    have hline : (fresh || Lexeme.isLineEnd '\n') = true := by cases fresh <;> rfl
    have hrest : Lexeme.Settled (fresh || Lexeme.isLineEnd '\n') pending (e.lexemes ++ restLexemes es) := by
      rw [hline]
      exact settled_entry (h e (by simp)) (ih fun x hx => h x (by simp [hx])) pending
    exact hrest

/-! ### Tokens -/

/-- The tokens are those of the definitions, each with its semicolon. Only the last semicolon may have
comments. -/
inductive Splits : List Definition → List Token → Prop
  | nil : Splits [] []
  | cons {x : Definition} {xs : List Definition} {us ts : List Token} {s : Token} (hus : x.IsChunk us)
      (hs : s.kind = .mark ";") (hcomments : s.comments = [] ∨ ts = []) (h : Splits xs ts) :
      Splits (x :: xs) (us ++ s :: ts)

theorem Splits.eq_nil {xs : List Definition} (h : Splits xs []) : xs = [] := by
  generalize hts : ([] : List Token) = ts at h
  cases h with
  | nil => rfl
  | cons => simp at hts

theorem shapes_append {ls : List Lexeme} (hls : Inner ls) (ms : List Lexeme) :
    Lexeme.shapes [] (ls ++ ms) = ls.filterMap Lexeme.shape? ++ Lexeme.shapes [] ms ∧
      Lexeme.unclaimed [] (ls ++ ms) = Lexeme.unclaimed [] ms := by
  induction ls with
  | nil => exact ⟨rfl, rfl⟩
  | cons l ls ih =>
    obtain ⟨hl, htail⟩ := inner_cons.mp hls
    obtain ⟨hshapes, hunclaimed⟩ := ih htail
    cases l with
    | blank c => exact ⟨hshapes, hunclaimed⟩
    | comment s cs => cases hl
    | token k s cs => exact ⟨congrArg (TokenShape.mk k s [] :: ·) hshapes, hunclaimed⟩

theorem shapes_definition {d : Dialect} {x : Definition} (hx : x.IsValid d) (pending : List String)
    (ls : List Lexeme) :
    Lexeme.shapes pending (x.lexemes ++ ls) = ⟨.keyword x.word, x.word, pending⟩ ::
        (x.bodyShapes ++ ⟨.mark ";", ";", []⟩ :: Lexeme.shapes [] ls) ∧
      Lexeme.unclaimed pending (x.lexemes ++ ls) = Lexeme.unclaimed [] ls := by
  obtain ⟨body, hlexemes, hbody, hshapes⟩ := Definition.exists_body hx
  obtain ⟨happend, hunclaimed⟩ := shapes_append hbody (.mark ';' :: ls)
  rw [hlexemes, List.cons_append, List.append_assoc, ← hshapes]
  exact ⟨congrArg (TokenShape.mk (.keyword x.word) x.word pending :: ·) happend, hunclaimed⟩

/-- Inside of a definition, every token is an inner one. -/
theorem isInnerKind_of_mem_bodyShapes {d : Dialect} {x : Definition} (hx : x.IsValid d) {s : TokenShape}
    (hs : s ∈ x.bodyShapes) : isInnerKind s.kind = true := by
  obtain ⟨body, -, hbody, hshapes⟩ := Definition.exists_body hx
  rw [← hshapes] at hs
  obtain ⟨l, hl, hshape⟩ := List.mem_filterMap.mp hs
  have hinner := hbody l hl
  cases l with
  | blank c => cases hshape
  | comment text written => cases hshape
  | token kind text written =>
    obtain rfl := Option.some.inj hshape
    exact hinner

theorem kinds_rest {d : Dialect} {es : List Entry} (h : ∀ e ∈ es, e.IsValid d) :
    ∀ pending, ∀ s ∈ Lexeme.shapes pending (restLexemes es),
      isInnerKind s.kind = true ∨ s.kind = .mark ";" := by
  induction es with
  | nil => exact fun _ => nofun
  | cons e es ih =>
    have hrest := ih fun x hx => h x (by simp [hx])
    cases e with
    | gap => exact hrest
    | note text => exact fun pending => hrest _
    | definition x =>
      intro pending s hs
      have hx : x.IsValid d := h (.definition x) (by simp)
      have hword : isInnerKind (.keyword x.word) = true := by cases x <;> rfl
      have hs : s ∈ Lexeme.shapes pending (x.lexemes ++ restLexemes es) := hs
      rw [(shapes_definition hx pending _).1, List.mem_cons, List.mem_append, List.mem_cons] at hs
      rcases hs with rfl | hs | rfl | hs
      · exact Or.inl hword
      · exact Or.inl (isInnerKind_of_mem_bodyShapes hx hs)
      · exact Or.inr rfl
      · exact hrest [] s hs

theorem noteLast_cons (comments : List String) (s : TokenShape) (ss : List TokenShape) :
    Lexeme.noteLast comments (s :: ss) =
      (if ss = [] then { s with comments := s.comments ++ comments } else s) ::
        Lexeme.noteLast comments ss := by
  cases ss with
  | nil => rfl
  | cons t ss => simp [Lexeme.noteLast]

theorem exists_of_mem_noteLast {comments : List String} {ss : List TokenShape} {s : TokenShape}
    (hs : s ∈ Lexeme.noteLast comments ss) : ∃ t ∈ ss, s.kind = t.kind := by
  induction ss with
  | nil => cases hs
  | cons t ss ih =>
    rw [noteLast_cons, List.mem_cons] at hs
    rcases hs with rfl | hs
    · refine ⟨t, by simp, ?_⟩
      split <;> rfl
    · obtain ⟨u, hu, hkind⟩ := ih hs
      exact ⟨u, by simp [hu], hkind⟩

theorem noteLast_append (comments : List String) (ss : List TokenShape) {ts : List TokenShape}
    (hts : ts ≠ []) : Lexeme.noteLast comments (ss ++ ts) = ss ++ Lexeme.noteLast comments ts := by
  induction ss with
  | nil => rfl
  | cons s ss ih => rw [List.cons_append, noteLast_cons, ih, if_neg (by simp [hts]), List.cons_append]

/-- The tokens of entries are those of the definitions among them. -/
theorem splits_rest {d : Dialect} {es : List Entry} (h : ∀ e ∈ es, e.IsValid d) :
    ∀ (pending : List String) (ts : List Token),
      ts.map Token.shape = Lexeme.noteLast (Lexeme.unclaimed pending (restLexemes es))
        (Lexeme.shapes pending (restLexemes es)) →
      Splits (es.filterMap definition?) ts := by
  induction es with
  | nil =>
    intro pending ts hts
    obtain rfl : ts = [] := List.map_eq_nil_iff.mp hts
    exact .nil
  | cons e es ih =>
    intro pending ts hts
    have hrest := ih fun x hx => h x (by simp [hx])
    cases e with
    | gap => exact hrest pending ts hts
    | note text => exact hrest _ ts hts
    | definition x =>
      have hx : x.IsValid d := h (.definition x) (by simp)
      obtain ⟨hshapes, hunclaimed⟩ := shapes_definition hx pending (restLexemes es)
      have hline : restLexemes (definition x :: es) = .blank '\n' :: (x.lexemes ++ restLexemes es) := rfl
      rw [hline, Lexeme.shapes, Lexeme.unclaimed, hshapes, hunclaimed, ← List.cons_append,
        noteLast_append _ _ (List.cons_ne_nil _ _), noteLast_cons, List.cons_append] at hts
      obtain ⟨t, us, rfl, ht, hus⟩ := List.map_eq_cons_iff.mp hts
      obtain ⟨vs, us, rfl, hvs, hus⟩ := List.map_eq_append_iff.mp hus
      obtain ⟨s, us, rfl, hs, hus⟩ := List.map_eq_cons_iff.mp hus
      have hchunk : x.IsChunk (t :: vs) :=
        ⟨t, vs, rfl, congrArg TokenShape.kind ht, congrArg TokenShape.text ht, hvs⟩
      refine .cons hchunk ?_ ?_ (hrest [] us hus)
      · split at hs <;> exact congrArg TokenShape.kind hs
      · split at hs
        · next hnil =>
          rw [hnil] at hus
          exact Or.inr (List.map_eq_nil_iff.mp hus)
        · exact Or.inl (congrArg TokenShape.comments hs)

end Entry

/-- A script by its first entry and all others. -/
structure Page where
  first : Entry
  more : List Entry

namespace Page

def lexemes (p : Page) : List Lexeme := p.first.lexemes ++ Entry.restLexemes p.more

def IsValid (d : Dialect) (p : Page) : Prop := ∀ e ∈ p.first :: p.more, e.IsValid d

def definitions (p : Page) : List Definition := (p.first :: p.more).filterMap Entry.definition?

def written (p : Page) : List Char := Lexeme.allWritten p.lexemes

theorem cuts {d : Dialect} {p : Page} (hp : p.IsValid d) : Lexeme.Cuts d p.lexemes [] :=
  (Entry.cuts_rest hp).2

theorem settled {d : Dialect} {p : Page} (hp : p.IsValid d) : Lexeme.Settled true false p.lexemes :=
  Entry.settled_entry (hp p.first (by simp))
    (Entry.settled_rest fun e he => hp e (by simp [he])) false

/-- The lexer finds the definitions of a page. -/
theorem tokens?_eq {d : Dialect} {p : Page} (hp : p.IsValid d) :
    ∃ ts, Lexer.tokens? d p.written = some ts ∧ Entry.Splits p.definitions ts := by
  have hkinds : ∀ s ∈ Lexeme.noteLast (Lexeme.unclaimed [] p.lexemes) (Lexeme.shapes [] p.lexemes),
      Lexer.swallows d ⟨s.kind, s.text, 0, 0, []⟩ = false := by
    intro s hs
    obtain ⟨t, ht, hkind⟩ := Entry.exists_of_mem_noteLast hs
    exact swallows_eq_false (hkind ▸ Entry.kinds_rest hp [] t ht)
  obtain ⟨ts, hts, hshapes⟩ := Lexer.tokens?_of_cuts (cuts hp) (settled hp) hkinds
  exact ⟨ts, hts, Entry.splits_rest hp [] ts hshapes⟩

end Page

end SchemaDesk.Ddl

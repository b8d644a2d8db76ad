import SchemaDesk.Proofs.Text.Blank
import SchemaDesk.Proofs.Text.Caseless
import SchemaDesk.Sql.Command
/-!
The commands that are statements on a table: those that create one, and those that give one a foreign key.
-/

namespace SchemaDesk.Sql.Command

open Text (Spells isBlank isWordChar endsWord)

variable {cs rest : List Char} {k : Nat}

/-! ### Creating a table -/

/-- Behind so many words at most, each with blanks behind it, there is the word `TABLE`. -/
inductive LeadsToTable : Nat → List Char → Prop
  | table {k : Nat} {table rest : List Char} (htable : Spells "table" table) (hends : endsWord rest = true) :
      LeadsToTable k (table ++ rest)
  | word {k : Nat} {word gap rest : List Char} (hne : word ≠ []) (hword : ∀ c ∈ word, isWordChar c = true)
      (hgapne : gap ≠ []) (hgap : ∀ b ∈ gap, isBlank b = true) (hrest : LeadsToTable k rest) :
      LeadsToTable (k + 1) (word ++ (gap ++ rest))

/-- The statement creates a table: up to three words, as `TEMPORARY`, may stand in front of the word `TABLE`. -/
def CreatesTable (cs : List Char) : Prop :=
  ∃ gap body, cs = gap ++ body ∧ (∀ b ∈ gap, isBlank b = true) ∧ LeadsToTable 3 body

theorem dropTable?_eq_some_iff :
    dropTable? cs = some rest ↔ (∃ table, Spells "table" table ∧ cs = table ++ rest) ∧ endsWord rest = true := by
  rw [dropTable?, Option.filter_eq_some_iff, Text.dropCaseless?_eq_some_iff]

theorem dropWord?_eq_some_iff : dropWord? cs = some rest ↔
    (∃ word gap, word ≠ [] ∧ (∀ c ∈ word, isWordChar c = true) ∧ gap ≠ [] ∧ (∀ b ∈ gap, isBlank b = true) ∧
      cs = word ++ (gap ++ rest)) ∧ ∀ c ∈ rest.head?, isBlank c = false := by
  have hcut : ((cs.dropWhile isWordChar).length == cs.length) = true ↔ cs.takeWhile isWordChar = [] := by
    have hlength := congrArg List.length (List.takeWhile_append_dropWhile (p := isWordChar) (l := cs))
    rw [List.length_append] at hlength
    rw [beq_iff_eq, ← List.length_eq_zero_iff]
    omega
  simp only [dropWord?]
  constructor
  · intro h
    split at h
    · cases h
    · next hnot =>
      obtain ⟨⟨gap, hgapne, hgap, hsplit⟩, hhead⟩ := Text.dropSomeBlanks?_eq_some_iff.mp h
      refine ⟨⟨cs.takeWhile isWordChar, gap, fun hnil => hnot (hcut.mpr hnil), fun _ => List.mem_takeWhile_imp,
        hgapne, hgap, ?_⟩, hhead⟩
      rw [← hsplit, List.takeWhile_append_dropWhile]
  · rintro ⟨⟨word, gap, hne, hword, hgapne, hgap, rfl⟩, hhead⟩
    have htake : (word ++ (gap ++ rest)).takeWhile isWordChar = word := by
      obtain ⟨b, gap, rfl⟩ := List.exists_cons_of_ne_nil hgapne
      refine Text.takeWhile_run hword fun c hc => ?_
      obtain rfl := Option.some.inj hc
      exact Text.isWordChar_of_isBlank (hgap b List.mem_cons_self)
    have hdrop : (word ++ (gap ++ rest)).dropWhile isWordChar = gap ++ rest := by
      have hsplit := List.takeWhile_append_dropWhile (p := isWordChar) (l := word ++ (gap ++ rest))
      rw [htake] at hsplit
      exact List.append_cancel_left hsplit
    rw [if_neg (fun h => hne (htake.symm.trans (hcut.mp h))), hdrop]
    exact Text.dropSomeBlanks?_eq_some_iff.mpr ⟨⟨gap, hgapne, hgap, rfl⟩, hhead⟩

/-- A word of small letters starts with no blank. -/
theorem isBlank_head_of_spells {word : String} {spelled : List Char} (h : Spells word spelled)
    (hletters : ∀ small ∈ word.toList, Text.isNameChar small = true) (hne : word.toList ≠ []) (rest : List Char) :
    ∀ c ∈ (spelled ++ rest).head?, isBlank c = false := by
  rw [Spells] at h
  generalize word.toList = ps at h hletters hne
  cases h with
  | nil => exact (hne rfl).elim
  | cons hc _ =>
    rintro c ⟨⟩
    exact Text.isBlank_of_isLetter hc (hletters _ List.mem_cons_self)

theorem isBlank_head_of_table {table : List Char} (h : Spells "table" table) (rest : List Char) :
    ∀ c ∈ (table ++ rest).head?, isBlank c = false :=
  isBlank_head_of_spells h (by decide) (by decide) rest

theorem LeadsToTable.isBlank_head (h : LeadsToTable k cs) : ∀ c ∈ cs.head?, isBlank c = false := by
  cases h with
  | table htable _ => exact isBlank_head_of_table htable _
  | @word _ word gap rest hne hword _ _ _ =>
    obtain ⟨x, word, rfl⟩ := List.exists_cons_of_ne_nil hne
    rintro c ⟨⟩
    refine Bool.eq_false_iff.mpr fun hblank => ?_
    have hx := hword x List.mem_cons_self
    rw [Text.isWordChar_of_isBlank hblank] at hx
    cases hx

theorem tableWithin_iff : tableWithin k cs = true ↔ LeadsToTable k cs := by
  have htable (k : Nat) (cs : List Char) (h : (dropTable? cs).isSome = true) : LeadsToTable k cs := by
    obtain ⟨rest, hrest⟩ := Option.isSome_iff_exists.mp h
    obtain ⟨⟨table, htable, rfl⟩, hends⟩ := dropTable?_eq_some_iff.mp hrest
    exact .table htable hends
  have hdrop (table rest : List Char) (h : Spells "table" table) (hends : endsWord rest = true) :
      (dropTable? (table ++ rest)).isSome = true := by
    rw [dropTable?_eq_some_iff.mpr ⟨⟨table, h, rfl⟩, hends⟩]
    rfl
  induction k generalizing cs with
  | zero =>
    rw [tableWithin]
    refine ⟨htable 0 cs, fun h => ?_⟩
    cases h with
    | table h hends => exact hdrop _ _ h hends
  | succ k ih =>
    rw [tableWithin, Bool.or_eq_true]
    constructor
    · rintro (h | h)
      · exact htable (k + 1) cs h
      · cases hword : dropWord? cs with
        | none => simp [hword] at h
        | some rest =>
          rw [hword] at h
          obtain ⟨⟨word, gap, hne, hletters, hgapne, hgap, rfl⟩, -⟩ := dropWord?_eq_some_iff.mp hword
          exact .word hne hletters hgapne hgap (ih.mp h)
    · intro h
      cases h with
      | table h hends => exact Or.inl (hdrop _ _ h hends)
      | @word _ word gap rest hne hletters hgapne hgap hrest =>
        right
        rw [dropWord?_eq_some_iff.mpr ⟨⟨word, gap, hne, hletters, hgapne, hgap, rfl⟩, hrest.isBlank_head⟩]
        exact ih.mpr hrest

/-! ### Giving a table a foreign key -/

/-- The words `FOREIGN KEY` stand somewhere behind a character that belongs to no word. -/
def NamesForeignKey (cs : List Char) : Prop :=
  ∃ between edge foreign gap key rest, cs = between ++ edge :: (foreign ++ (gap ++ (key ++ rest))) ∧
    isWordChar edge = false ∧ Spells "foreign" foreign ∧ gap ≠ [] ∧ (∀ b ∈ gap, isBlank b = true) ∧
    Spells "key" key ∧ endsWord rest = true

/-- The statement alters a table and has to do with a foreign key. -/
def AltersForeignKey (cs : List Char) : Prop :=
  ∃ gap table rest, cs = gap ++ (table ++ rest) ∧ (∀ b ∈ gap, isBlank b = true) ∧ Spells "table" table ∧
    endsWord rest = true ∧ NamesForeignKey rest

theorem dropForeignKey?_eq_some_iff : Text.dropWords? ["foreign", "key"] cs = some rest ↔
    ∃ foreign gap key, cs = foreign ++ (gap ++ (key ++ rest)) ∧ Spells "foreign" foreign ∧ gap ≠ [] ∧
      (∀ b ∈ gap, isBlank b = true) ∧ Spells "key" key := by
  simp only [Text.dropWords?, bind, Option.bind_eq_some_iff, Text.dropCaseless?_eq_some_iff,
    Text.dropSomeBlanks?_eq_some_iff]
  constructor
  · rintro ⟨_, ⟨foreign, hforeign, rfl⟩, _, ⟨⟨gap, hne, hgap, rfl⟩, -⟩, key, hkey, rfl⟩
    exact ⟨foreign, gap, key, rfl, hforeign, hne, hgap, hkey⟩
  · rintro ⟨foreign, gap, key, rfl, hforeign, hne, hgap, hkey⟩
    exact ⟨_, ⟨foreign, hforeign, rfl⟩, _, ⟨⟨gap, hne, hgap, rfl⟩,
      isBlank_head_of_spells hkey (by decide) (by decide) rest⟩, key, hkey, rfl⟩

theorem namesForeignKey_cons_iff {c : Char} : NamesForeignKey (c :: cs) ↔
    (isWordChar c = false ∧ ∃ rest, Text.dropWords? ["foreign", "key"] cs = some rest ∧ endsWord rest = true) ∨
      NamesForeignKey cs := by
  constructor
  · rintro ⟨between, edge, foreign, gap, key, rest, hsplit, hedge, hforeign, hne, hgap, hkey, hends⟩
    cases between with
    | nil =>
      obtain ⟨rfl, rfl⟩ := List.cons.inj hsplit
      exact Or.inl ⟨hedge, rest, dropForeignKey?_eq_some_iff.mpr
        ⟨foreign, gap, key, rfl, hforeign, hne, hgap, hkey⟩, hends⟩
    | cons x between =>
      obtain ⟨-, rfl⟩ := List.cons.inj hsplit
      exact Or.inr ⟨between, edge, foreign, gap, key, rest, rfl, hedge, hforeign, hne, hgap, hkey, hends⟩
  · rintro (⟨hedge, rest, hdrop, hends⟩ | ⟨between, edge, foreign, gap, key, rest, rfl, h⟩)
    · obtain ⟨foreign, gap, key, rfl, hforeign, hne, hgap, hkey⟩ := dropForeignKey?_eq_some_iff.mp hdrop
      exact ⟨[], c, foreign, gap, key, rest, rfl, hedge, hforeign, hne, hgap, hkey, hends⟩
    · exact ⟨c :: between, edge, foreign, gap, key, rest, rfl, h⟩

theorem mentionsForeignKey_iff : mentionsForeignKey cs = true ↔ NamesForeignKey cs := by
  induction cs with
  | nil =>
    refine iff_of_false nofun ?_
    rintro ⟨between, edge, foreign, gap, key, rest, hsplit, -⟩
    simp at hsplit
  | cons c cs ih =>
    rw [mentionsForeignKey, namesForeignKey_cons_iff, ← ih]
    cases Text.dropWords? ["foreign", "key"] cs <;> simp

/-! ### Both -/

/-- A keyword and what stands behind it are a statement that creates a table or gives one a foreign key. -/
inductive IsTableStatement (keyword rest : List Char) : Prop
  | create (hkeyword : Spells "create" keyword) (hrest : CreatesTable rest)
  | alter (hkeyword : Spells "alter" keyword) (hrest : AltersForeignKey rest)

theorem isBroken_create_iff : isBroken "CREATE" rest = true ↔ CreatesTable rest := by
  rw [isBroken, if_pos (by decide), tableWithin_iff]
  constructor
  · intro h
    obtain ⟨gap, hgap, hsplit⟩ := Text.exists_eq_append_dropBlanks rest
    exact ⟨gap, _, hsplit, hgap, h⟩
  · rintro ⟨gap, body, rfl, hgap, hbody⟩
    rwa [Text.dropBlanks_append hgap hbody.isBlank_head]

theorem isBroken_alter_iff : isBroken "ALTER" rest = true ↔ AltersForeignKey rest := by
  rw [isBroken, if_neg (by decide), if_pos (by decide)]
  constructor
  · intro h
    obtain ⟨gap, hgap, hsplit⟩ := Text.exists_eq_append_dropBlanks rest
    split at h
    · next after hafter =>
      obtain ⟨⟨table, htable, hbody⟩, hends⟩ := dropTable?_eq_some_iff.mp hafter
      rw [hbody] at hsplit
      exact ⟨gap, table, after, hsplit, hgap, htable, hends, mentionsForeignKey_iff.mp h⟩
    · cases h
  · rintro ⟨gap, table, after, rfl, hgap, htable, hends, hkey⟩
    have hdrop : dropTable? (table ++ after) = some after :=
      dropTable?_eq_some_iff.mpr ⟨⟨table, htable, rfl⟩, hends⟩
    rw [Text.dropBlanks_append hgap (isBlank_head_of_table htable after), hdrop]
    exact mentionsForeignKey_iff.mpr hkey

/-- The letter `B` is one of the statement, for its `TABLE`. -/
theorem IsTableStatement.exists_letter {keyword : List Char} (h : IsTableStatement keyword rest) :
    ∃ c ∈ rest, Text.isLetter 'b' c = true := by
  have htable {table : List Char} (h : Spells "table" table) : ∃ c ∈ table, Text.isLetter 'b' c = true := by
    rw [Spells, show "table".toList = ['t', 'a', 'b', 'l', 'e'] from rfl] at h
    rcases h with _ | ⟨-, _ | ⟨-, _ | ⟨hb, -⟩⟩⟩
    exact ⟨_, by simp, hb⟩
  have hleads {k : Nat} {cs : List Char} (h : LeadsToTable k cs) : ∃ c ∈ cs, Text.isLetter 'b' c = true := by
    induction h with
    | table h _ =>
      obtain ⟨c, hc, hletter⟩ := htable h
      exact ⟨c, List.mem_append_left _ hc, hletter⟩
    | word _ _ _ _ _ ih =>
      obtain ⟨c, hc, hletter⟩ := ih
      exact ⟨c, List.mem_append_right _ (List.mem_append_right _ hc), hletter⟩
  cases h with
  | create _ hrest =>
    obtain ⟨gap, body, rfl, -, hbody⟩ := hrest
    obtain ⟨c, hc, hletter⟩ := hleads hbody
    exact ⟨c, List.mem_append_right gap hc, hletter⟩
  | alter _ hrest =>
    obtain ⟨gap, table, after, rfl, -, h, -⟩ := hrest
    obtain ⟨c, hc, hletter⟩ := htable h
    exact ⟨c, List.mem_append_right gap (List.mem_append_left after hc), hletter⟩

end SchemaDesk.Sql.Command

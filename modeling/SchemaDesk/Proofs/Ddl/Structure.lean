import Mathlib.Data.List.Find
import Mathlib.Data.Set.Function
import SchemaDesk.Proofs.Ddl.RoundTrip

/-!
What a script shows of a schema: names, columns and actions, and which relation goes from where to where. Identifiers
only tell which part is meant, so that others do as well; a relation without two ends leaves no more than a heading.
-/

namespace SchemaDesk

/-! ### Other identifiers -/

def Endpoint.rename (f g : Id → Id) (e : Endpoint) : Endpoint := ⟨f e.table, g e.column⟩

/-- The same name and the same columns under other identifiers; the place on the canvas and the color may differ. -/
structure Table.Renames (f g : Id → Id) (t u : Table) : Prop where
  id_eq : u.id = f t.id
  name_eq : u.name = t.name
  columns_eq : u.columns = t.columns.map (Column.mapIds g)

/-- The same actions between ends of other identifiers; the relation's own identifier, name and type may differ. -/
structure Relation.Renames (f g : Id → Id) (r q : Relation) : Prop where
  source_eq : q.source = r.source.rename f g
  target_eq : q.target = r.target.rename f g
  onDelete_eq : q.onDelete = r.onDelete
  onUpdate_eq : q.onUpdate = r.onUpdate

namespace Schema

/-- The second schema has the structure of the first one, with `f` for the identifiers of tables and `g` for those of
columns. -/
structure Renames (f g : Id → Id) (s s' : Schema) : Prop where
  tables : List.Forall₂ (Table.Renames f g) s.tables s'.tables
  relations : List.Forall₂ (Relation.Renames f g) s.relations s'.relations

/-- The identifiers that tables have, or that relations give for tables. -/
def namedTables (s : Schema) : Set Id :=
  {id | id ∈ s.tableIds ∨ ∃ r ∈ s.relations, id = r.sourceTableId ∨ id = r.targetTableId}

/-- The identifiers that columns have, or that relations give for columns. -/
def namedColumns (s : Schema) : Set Id :=
  {id | id ∈ s.columnIds ∨ ∃ r ∈ s.relations, id = r.sourceColumnId ∨ id = r.targetColumnId}

/-- The schema without the relations that have an end at no column. -/
def dropDangling (s : Schema) : Schema :=
  { s with relations := s.relations.filter fun r =>
      (r.source.find? s.tables).isSome && (r.target.find? s.tables).isSome }

/-- What the relations without two ends leave behind a script. Where neither a time nor a table precedes the heading,
it saves the blank in front of the time from being cut off. -/
def danglingHeading (s : Schema) (madeAt : String) : String :=
  if s.relations = [] ∨ s.dropDangling.relations ≠ [] then ""
  else if madeAt = "" ∧ s.tables = [] then " \n\n-- Foreign Keys"
  else "\n\n-- Foreign Keys"

end Schema

variable {f g : Id → Id} {d : Dialect} {madeAt : String}

/-! ### Tables -/

namespace Table

theorem script_congr {t u : Table} (hname : u.name = t.name) (hcolumns : u.columns = t.columns) (d : Dialect) :
    u.script d = t.script d := by
  obtain ⟨id, name, color, columns, position, parent⟩ := u
  obtain rfl : name = t.name := hname
  obtain rfl : columns = t.columns := hcolumns
  rfl

namespace Renames

theorem script_eq {t u : Table} (h : t.Renames f g u) (d : Dialect) : u.script d = t.script d := by
  rw [← t.script_mapIds g]
  exact script_congr (t := t.mapIds g) h.name_eq h.columns_eq d

/-- The column of an identifier is found by the new identifier. -/
theorem column?_eq {t u : Table} (h : t.Renames f g u) {id : Id} (hg : ∀ c ∈ t.columns, g c.id = g id → c.id = id) :
    u.column? (g id) = (t.column? id).map (Column.mapIds g) := by
  have hfind : t.columns.find? ((fun c => c.id == g id) ∘ Column.mapIds g) = t.columns.find? fun c => c.id == id := by
    refine List.find?_congr fun c hc => ?_
    rw [Function.comp_apply, Bool.eq_iff_iff, beq_iff_eq, beq_iff_eq]
    exact ⟨hg c hc, congrArg g⟩
  rw [column?, h.columns_eq, List.find?_map, hfind]
  rfl

end Renames

/-- The table of an identifier is found by the new identifier. -/
theorem find?_renames {ts us : List Table} (h : List.Forall₂ (Renames f g) ts us) {id : Id}
    (hf : ∀ t ∈ ts, f t.id = f id → t.id = id) :
    Option.Rel (Renames f g) (ts.find? fun t => t.id == id) (us.find? fun u => u.id == f id) := by
  induction h with
  | nil => exact .none
  | @cons t u ts us htu _ ih =>
    have hsame : (u.id == f id) = (t.id == id) := by
      rw [htu.id_eq, Bool.eq_iff_iff, beq_iff_eq, beq_iff_eq]
      exact ⟨hf t List.mem_cons_self, congrArg f⟩
    rw [List.find?_cons, List.find?_cons, hsame]
    cases t.id == id with
    | true => exact .some htu
    | false => exact ih fun t ht => hf t (List.mem_cons_of_mem _ ht)

end Table

/-! ### Ends of relations -/

namespace Endpoint

/-- The names of the table and of the column at an end. -/
def names? (tables : List Table) (e : Endpoint) : Option (String × String) :=
  (e.find? tables).map fun p => (p.1.name, p.2.name)

theorem names?_rename {ts us : List Table} (h : List.Forall₂ (Table.Renames f g) ts us) {e : Endpoint}
    (hf : ∀ t ∈ ts, f t.id = f e.table → t.id = e.table)
    (hg : ∀ t ∈ ts, ∀ c ∈ t.columns, g c.id = g e.column → c.id = e.column) :
    (e.rename f g).names? us = e.names? ts := by
  have hfind := Table.find?_renames h hf
  simp only [names?, find?, rename]
  cases htable : ts.find? fun t => t.id == e.table with
  | none =>
    rw [htable] at hfind
    cases hother : us.find? fun u => u.id == f e.table with
    | none => rfl
    | some u => rw [hother] at hfind; cases hfind
  | some t =>
    rw [htable] at hfind
    cases hother : us.find? fun u => u.id == f e.table with
    | none => rw [hother] at hfind; cases hfind
    | some u =>
      rw [hother] at hfind
      obtain ⟨htu⟩ := hfind
      have hcolumn := htu.column?_eq (hg t (List.mem_of_find?_eq_some htable))
      simp only [Option.bind_eq_bind, Option.bind_some, hcolumn]
      cases t.column? e.column <;> simp [htu.name_eq, Column.mapIds]

end Endpoint

namespace Relation

/-- The statement that adds a foreign key between columns of given names. -/
def scriptBetween (source target : String × String) (onDelete onUpdate : Option String) : String :=
  "ALTER TABLE " ++ source.1 ++ "\n" ++
    indent ++ "ADD CONSTRAINT " ++ ("fk_" ++ source.1 ++ "_" ++ source.2) ++ "\n" ++
    indent ++ "FOREIGN KEY (" ++ source.2 ++ ")\n" ++
    indent ++ "REFERENCES " ++ target.1 ++ "(" ++ target.2 ++ ")" ++
    actionClause "DELETE" onDelete ++ actionClause "UPDATE" onUpdate ++ ";"

/-- Only the names at the ends and the actions are written. -/
theorem script?_eq_bind (r : Relation) (tables : List Table) : r.script? tables =
    (r.source.names? tables).bind fun source => (r.target.names? tables).map fun target =>
      scriptBetween source target r.onDelete r.onUpdate := by
  cases hends : r.ends? tables with
  | some e =>
    obtain ⟨hsource, htarget⟩ := ends?_eq_some_iff.mp hends
    rw [script?, hends, Endpoint.names?, hsource, Endpoint.names?, htarget]
    rfl
  | none =>
    rw [script?, hends, Endpoint.names?, Endpoint.names?]
    cases hsource : r.source.find? tables with
    | none => rfl
    | some p =>
      cases htarget : r.target.find? tables with
      | none => rfl
      | some q =>
        have hends' := (ends?_eq_some_iff (e := ⟨p.1, p.2, q.1, q.2⟩)).mpr ⟨hsource, htarget⟩
        rw [hends] at hends'
        cases hends'

theorem Renames.script?_eq {r q : Relation} (h : r.Renames f g q) {ts us : List Table}
    (hts : List.Forall₂ (Table.Renames f g) ts us)
    (hf : ∀ e ∈ [r.source, r.target], ∀ t ∈ ts, f t.id = f e.table → t.id = e.table)
    (hg : ∀ e ∈ [r.source, r.target], ∀ t ∈ ts, ∀ c ∈ t.columns, g c.id = g e.column → c.id = e.column) :
    q.script? us = r.script? ts := by
  have hnames : ∀ e ∈ [r.source, r.target], (e.rename f g).names? us = e.names? ts :=
    fun e he => Endpoint.names?_rename hts (hf e he) (hg e he)
  rw [List.forall_mem_cons, List.forall_mem_singleton] at hnames
  rw [script?_eq_bind, script?_eq_bind, h.source_eq, h.target_eq, hnames.1, hnames.2, h.onDelete_eq,
    h.onUpdate_eq]

/-- A relation with an end at no column is not written. -/
theorem script?_eq_none_iff {r : Relation} {tables : List Table} : r.script? tables = none ↔
    ((r.source.find? tables).isSome && (r.target.find? tables).isSome) = false := by
  rw [script?_eq_bind, Endpoint.names?, Endpoint.names?]
  cases r.source.find? tables <;> cases r.target.find? tables <;> simp

end Relation

namespace Schema

/-! ### Scripts -/

theorem Renames.foreignKeys_eq {s s' : Schema} (h : s.Renames f g s') (hf : Set.InjOn f s.namedTables)
    (hg : Set.InjOn g s.namedColumns) : s'.foreignKeys = s.foreignKeys := by
  have hall : ∀ {rs qs : List Relation}, List.Forall₂ (Relation.Renames f g) rs qs → (∀ r ∈ rs, r ∈ s.relations) →
      qs.filterMap (·.script? s'.tables) = rs.filterMap (·.script? s.tables) := by
    intro rs qs hrel
    induction hrel with
    | nil => exact fun _ => rfl
    | @cons r q rs qs hrq _ ih =>
      intro hmem
      obtain ⟨hr, hrs⟩ := List.forall_mem_cons.mp hmem
      have hscript : q.script? s'.tables = r.script? s.tables := by
        refine hrq.script?_eq h.tables ?_ ?_ <;> intro e he t ht
        · have htable : e.table ∈ s.namedTables := by
            rcases List.mem_pair.mp he with rfl | rfl
            · exact Or.inr ⟨r, hr, Or.inl rfl⟩
            · exact Or.inr ⟨r, hr, Or.inr rfl⟩
          exact fun heq => hf (Or.inl (List.mem_map_of_mem ht)) htable heq
        · have hcolumn : e.column ∈ s.namedColumns := by
            rcases List.mem_pair.mp he with rfl | rfl
            · exact Or.inr ⟨r, hr, Or.inl rfl⟩
            · exact Or.inr ⟨r, hr, Or.inr rfl⟩
          exact fun c hc heq =>
            hg (Or.inl (List.mem_flatMap.mpr ⟨t, ht, List.mem_map_of_mem hc⟩)) hcolumn heq
      rw [List.filterMap_cons, List.filterMap_cons, hscript, ih hrs]
  exact hall h.relations fun _ => id

theorem Renames.texts_eq {s s' : Schema} (h : s.Renames f g s') (hf : Set.InjOn f s.namedTables)
    (hg : Set.InjOn g s.namedColumns) (d : Dialect) : s'.texts d = s.texts d := by
  have hscripts : s'.tables.map (·.script d) = s.tables.map (·.script d) := by
    have hall : List.Forall₂ (fun t u => t.script d = u.script d) s'.tables s.tables :=
      h.tables.flip.imp fun _ _ htu => htu.script_eq d
    exact List.forall₂_eq_eq_eq ▸ List.forall₂_map_left_iff.mpr (List.forall₂_map_right_iff.mpr hall)
  have htables : s'.tables.isEmpty = s.tables.isEmpty := by
    rw [Bool.eq_iff_iff, List.isEmpty_iff_length_eq_zero, List.isEmpty_iff_length_eq_zero, h.tables.length_eq]
  have hrelations : s'.relations.isEmpty = s.relations.isEmpty := by
    rw [Bool.eq_iff_iff, List.isEmpty_iff_length_eq_zero, List.isEmpty_iff_length_eq_zero, h.relations.length_eq]
  rw [texts, texts, hscripts, htables, hrelations, h.foreignKeys_eq hf hg]

theorem script_congr {s s' : Schema} (h : s'.texts d = s.texts d) (madeAt : String) :
    s'.script d madeAt = s.script d madeAt := by
  rw [script, script, lines_eq, lines_eq, h]

/-- The lines of a script up to the last one that is not empty. -/
def body (s : Schema) (d : Dialect) (madeAt : String) : List String :=
  ("-- Database: " ++ d.name) :: ("-- Generated at: " ++ madeAt) :: (s.texts d).flatMap fun x => ["", x]

theorem toList_script_of_endsSolid {s : Schema}
    (h : EndsSolid ((s.body d madeAt).flatMap fun x => "\n".toList ++ x.toList)) :
    (s.script d madeAt).toList =
      "-- Generated by DBKeep".toList ++ (s.body d madeAt).flatMap fun x => "\n".toList ++ x.toList := by
  obtain ⟨z, hz, hblank⟩ := h.append "-- Generated by DBKeep".toList
  have hhead : ∀ c ∈ ("-- Generated by DBKeep".toList ++
      (s.body d madeAt).flatMap fun x => "\n".toList ++ x.toList).head?, Text.isBlank c = false := by
    have hfirst : "-- Generated by DBKeep".toList.head? = some '-' := by decide
    rw [List.head?_append, hfirst]
    rintro c ⟨⟩
    decide
  have hlast : ∀ c ∈ ("-- Generated by DBKeep".toList ++
      (s.body d madeAt).flatMap fun x => "\n".toList ++ x.toList).getLast?, Text.isBlank c = false := by
    intro c hc
    rwa [Option.mem_unique hc hz]
  have hcut := @Text.stripChars_append [] _ ['\n'] nofun (by decide) hhead hlast
  rw [toList_script, ← hcut, body]
  simp

theorem endsSolid_texts (s : Schema) (d : Dialect) : ∀ x ∈ s.texts d, EndsSolid x.toList := by
  have htables : EndsSolid "-- Tables".toList := ⟨'s', by decide, by decide⟩
  have hkeys : EndsSolid "-- Foreign Keys".toList := ⟨'s', by decide, by decide⟩
  have htable (t : Table) : EndsSolid (t.script d).toList := by
    have hclose : EndsSolid "\n);".toList := ⟨';', by decide, by decide⟩
    rw [Table.script, String.toList_append]
    exact hclose.append _
  have hkey : ∀ x ∈ s.foreignKeys, EndsSolid x.toList := by
    intro x hx
    obtain ⟨r, -, hr⟩ := List.mem_filterMap.mp hx
    obtain ⟨source, -, htarget⟩ := Option.bind_eq_some_iff.mp (r.script?_eq_bind s.tables ▸ hr)
    obtain ⟨target, -, rfl⟩ := Option.map_eq_some_iff.mp htarget
    have hclose : EndsSolid ";".toList := ⟨';', by decide, by decide⟩
    unfold Relation.scriptBetween
    rw [String.toList_append]
    exact hclose.append _
  intro x hx
  rcases List.mem_append.mp hx with hx | hx <;> split at hx
  · cases hx
  · obtain rfl | hx := List.mem_cons.mp hx
    · exact htables
    · obtain ⟨t, -, rfl⟩ := List.mem_map.mp hx
      exact htable t
  · cases hx
  · obtain rfl | hx := List.mem_cons.mp hx
    · exact hkeys
    · exact hkey x hx

end Schema

theorem Text.endsSolid_of_strip_eq {s : String} (h : strip s = s) (hne : s ≠ "") : Schema.EndsSolid s.toList := by
  have hne' : s.toList ≠ [] := fun hnil => hne (String.toList_eq_nil_iff.mp hnil)
  refine ⟨_, List.getLast?_eq_some_getLast hne', ?_⟩
  have hchars : stripChars s.toList = s.toList := by
    rw [← String.toList_ofList (l := stripChars s.toList), ← strip, h]
  have hlast : (stripChars s.toList).getLast? = some (s.toList.getLast hne') := by
    rw [hchars, List.getLast?_eq_some_getLast hne']
  rw [stripChars, dropTrailingBlanks, List.getLast?_reverse] at hlast
  have hhead := List.head?_dropWhile_not isBlank (s.toList.dropWhile isBlank).reverse
  rw [hlast] at hhead
  simpa using hhead

namespace Schema

/-- The last line ends with no blank, unless it is the one with the time and there is none. -/
theorem endsSolid_body {s : Schema} (hat : Text.strip madeAt = madeAt) (h : madeAt ≠ "" ∨ s.tables ≠ []) :
    EndsSolid ((s.body d madeAt).flatMap fun x => "\n".toList ++ x.toList) := by
  have hall : ∀ x ∈ s.texts d, EndsSolid ("\n".toList ++ ("\n".toList ++ x.toList)) :=
    fun x hx => .append _ (.append _ (s.endsSolid_texts d x hx))
  have htexts : ((s.texts d).flatMap fun x => ["", x]).flatMap (fun x => "\n".toList ++ x.toList) =
      (s.texts d).flatMap fun x => "\n".toList ++ ("\n".toList ++ x.toList) := by
    rw [List.flatMap_assoc]
    exact List.flatMap_congr fun x _ => by simp
  rw [body, List.flatMap_cons, List.flatMap_cons, htexts]
  refine .append _ ?_
  rcases h with hne | hne
  · have hmade : EndsSolid ("-- Generated at: " ++ madeAt).toList := by
      rw [String.toList_append]
      exact .append _ (Text.endsSolid_of_strip_eq hat hne)
    exact EndsSolid.flatMap (.append _ hmade) hall
  · have hfirst : s.texts d = "-- Tables" :: (s.texts d).tail := by
      rw [texts, if_neg (by simpa using hne)]
      rfl
    rw [hfirst, List.forall_mem_cons] at hall
    rw [hfirst, List.flatMap_cons]
    exact .append _ (hall.1.flatMap hall.2)

theorem foreignKeys_dropDangling (s : Schema) : s.dropDangling.foreignKeys = s.foreignKeys := by
  rw [foreignKeys, dropDangling, List.filterMap_filter, foreignKeys]
  refine List.filterMap_congr fun r _ => ?_
  cases hends : (r.source.find? s.tables).isSome && (r.target.find? s.tables).isSome with
  | true => rfl
  | false => exact (Relation.script?_eq_none_iff.mpr hends).symm

theorem foreignKeys_eq_nil_of_dropDangling {s : Schema} (h : s.dropDangling.relations = []) : s.foreignKeys = [] := by
  rw [← foreignKeys_dropDangling, foreignKeys, h, List.filterMap_nil]

theorem texts_eq_dropDangling (s : Schema) (d : Dialect) : s.texts d = s.dropDangling.texts d ++
    if s.relations = [] ∨ s.dropDangling.relations ≠ [] then [] else ["-- Foreign Keys"] := by
  have htables : s.dropDangling.tables = s.tables := rfl
  rw [texts, texts, foreignKeys_dropDangling, htables, List.append_assoc]
  congr 1
  by_cases hall : s.relations = []
  · have hdropped : s.dropDangling.relations = [] := by rw [dropDangling, hall, List.filter_nil]
    simp [hall, hdropped]
  · by_cases hdropped : s.dropDangling.relations = []
    · simp [hall, hdropped, foreignKeys_eq_nil_of_dropDangling hdropped]
    · simp [hall, hdropped]

/-- A script without times and tables has no more than the heading of its relations. -/
theorem script_empty (d : Dialect) (s : Schema) (h : s.tables = []) :
    s.script d "" = "-- Generated by DBKeep\n-- Database: " ++ d.name ++
      if s.relations = [] then "\n-- Generated at:" else "\n-- Generated at: \n\n-- Foreign Keys" := by
  have hkeys : s.foreignKeys = [] := by
    refine List.filterMap_eq_nil_iff.mpr fun r _ => Relation.script?_eq_none_iff.mpr ?_
    rw [h]
    rfl
  have htexts : s.texts d = if s.relations = [] then [] else ["-- Foreign Keys"] := by
    simp [texts, h, hkeys]
  rw [script, lines_eq, htexts]
  split <;> cases d <;> decide +kernel

/-- The relations without two ends leave no more in a script than their heading behind it. -/
theorem script_eq_dropDangling {s : Schema} (hat : Text.strip madeAt = madeAt) :
    s.script d madeAt = s.dropDangling.script d madeAt ++ s.danglingHeading madeAt := by
  by_cases hempty : madeAt = "" ∧ s.tables = []
  · obtain ⟨rfl, htables⟩ := hempty
    have hdropped : s.dropDangling.relations = [] := by
      simp [dropDangling, htables, Endpoint.find?]
    rw [script_empty d s htables, script_empty d s.dropDangling htables, danglingHeading]
    by_cases hall : s.relations = []
    · simp [hall, hdropped]
    · simp [hall, hdropped, htables, String.append_assoc]
  · have h : madeAt ≠ "" ∨ s.tables ≠ [] := not_and_or.mp hempty
    have hdropped := toList_script_of_endsSolid (s := s.dropDangling) (endsSolid_body (d := d) hat h)
    have hbody : s.body d madeAt = s.dropDangling.body d madeAt ++
        if s.relations = [] ∨ s.dropDangling.relations ≠ [] then [] else ["", "-- Foreign Keys"] := by
      rw [body, texts_eq_dropDangling, List.flatMap_append, body]
      split <;> simp
    apply String.toList_inj.mp
    rw [String.toList_append, toList_script_of_endsSolid (endsSolid_body hat h), hdropped, hbody, List.flatMap_append,
      danglingHeading, if_neg hempty]
    split <;> simp

/-- A script shows the structure of a schema: it is the same under other identifiers that tell the same tables and
columns apart, and relations that are not between two columns leave no more than the heading of the relations. -/
theorem script_structure {s s' : Schema} (hf : Set.InjOn f s.namedTables) (hg : Set.InjOn g s.namedColumns)
    (h : s.Renames f g s') (d : Dialect) (madeAt : String) :
    s'.script d madeAt = s.script d madeAt ∧
      (Text.strip madeAt = madeAt →
        s.script d madeAt = s.dropDangling.script d madeAt ++ s.danglingHeading madeAt) :=
  ⟨script_congr (h.texts_eq hf hg d) madeAt, script_eq_dropDangling⟩

/-- Purchases of users, and a relation to a table that is not there. -/
def purchases : Schema :=
  { tables := [
      { id := .fresh 1, name := "users", columns := [{ id := .fresh 0, name := "id", type := .integer }] },
      { id := .fresh 4, name := "purchases", columns := [
          { id := .fresh 2, name := "id", type := .integer },
          { id := .fresh 3, name := "user_id", type := .integer }] }]
    relations := [
      { id := .fresh 5, sourceTableId := .fresh 4, sourceColumnId := .fresh 3, targetTableId := .fresh 1
        targetColumnId := .fresh 0, onDelete := some "CASCADE" },
      { id := .fresh 6, sourceTableId := .fresh 4, sourceColumnId := .fresh 3, targetTableId := .fresh 7
        targetColumnId := .fresh 8 }] }

/-- The same under other identifiers, and drawn in another way. -/
def purchasesRenamed : Schema :=
  { tables := [
      { id := .fresh 11, name := "users", color := "#ff0000", columns := [
          { id := .fresh 20, name := "id", type := .integer }] },
      { id := .fresh 14, name := "purchases", position := some ⟨.whole 0, .whole 40⟩, parentNode := some "shop"
        columns := [
          { id := .fresh 22, name := "id", type := .integer },
          { id := .fresh 23, name := "user_id", type := .integer }] }]
    relations := [
      { id := .named "r", sourceTableId := .fresh 14, sourceColumnId := .fresh 23, targetTableId := .fresh 11
        targetColumnId := .fresh 20, onDelete := some "CASCADE", type := .oneToOne, name := some "buyer" },
      { id := .named "q", sourceTableId := .fresh 14, sourceColumnId := .fresh 23, targetTableId := .fresh 17
        targetColumnId := .fresh 28 }] }

/-- The identifier that stands so many places behind. -/
def behind (k : Nat) : Id → Id
  | .named text => .named text
  | .fresh n => .fresh (n + k)

theorem behind_injective (k : Nat) : Function.Injective (behind k)
  | .named _, .named _, h => h
  | .fresh n, .fresh m, h => by
    have hsum : n + k = m + k := Id.fresh.inj h
    rw [Nat.add_right_cancel hsum]

theorem script_structure_purchases :
    Set.InjOn (behind 10) purchases.namedTables ∧ Set.InjOn (behind 20) purchases.namedColumns ∧
      purchases.Renames (behind 10) (behind 20) purchasesRenamed ∧ Text.strip "T" = "T" ∧
      purchasesRenamed.script .mysql "T" = purchases.script .mysql "T" ∧
      purchases.script .mysql "T" = purchases.dropDangling.script .mysql "T" ++ purchases.danglingHeading "T" := by
  have hf := (behind_injective 10).injOn (s := purchases.namedTables)
  have hg := (behind_injective 20).injOn (s := purchases.namedColumns)
  have hrenames : purchases.Renames (behind 10) (behind 20) purchasesRenamed := by
    constructor
    · exact .cons ⟨rfl, rfl, rfl⟩ (.cons ⟨rfl, rfl, rfl⟩ .nil)
    · exact .cons ⟨rfl, rfl, rfl, rfl⟩ (.cons ⟨rfl, rfl, rfl, rfl⟩ .nil)
  have hat : Text.strip "T" = "T" := by decide +kernel
  obtain ⟨hsame, hdropped⟩ := script_structure hf hg hrenames .mysql "T"
  exact ⟨hf, hg, hrenames, hat, hsame, hdropped hat⟩

/-- A relation between tables that are not there. -/
def lost : Schema :=
  { relations := [{ id := .fresh 0, sourceTableId := .fresh 1, sourceColumnId := .fresh 2, targetTableId := .fresh 3
                    targetColumnId := .fresh 4 }] }

/-- Behind an empty time not only the heading goes with such a relation, but also a blank. -/
theorem blank_lost_with_heading :
    Text.strip "" = "" ∧
      lost.script .postgresql "" =
        "-- Generated by DBKeep\n-- Database: PostgreSQL\n-- Generated at: \n\n-- Foreign Keys" ∧
      lost.dropDangling.script .postgresql "" =
        "-- Generated by DBKeep\n-- Database: PostgreSQL\n-- Generated at:" ∧
      lost.script .postgresql "" ≠ lost.dropDangling.script .postgresql "" ∧
      lost.script .postgresql "" ≠ lost.dropDangling.script .postgresql "" ++ "\n\n-- Foreign Keys" := by
  have hwhole : lost.script .postgresql "" = _ := script_empty .postgresql lost rfl
  have hdropped : lost.dropDangling.script .postgresql "" = _ := script_empty .postgresql lost.dropDangling rfl
  rw [hwhole, hdropped]
  decide +kernel

end Schema

end SchemaDesk

import SchemaDesk.Proofs.Ddl.PageSchema
import SchemaDesk.Proofs.Ddl.WrittenTable
import SchemaDesk.Proofs.Text.Blank
/-!
The scripts that are written for schemas, and the schemas that are read for them.
-/

namespace SchemaDesk

open Ddl Sql

/-! ### Foreign keys -/

namespace ReferentialAction

/-- The action of that very name. -/
def named? (s : String) : Option ReferentialAction := all.find? fun a => a.name == s

theorem named?_name (a : ReferentialAction) : named? a.name = some a := by
  cases a <;> decide

end ReferentialAction

/-- The text stands for an action, or for none. -/
def IsActionText (s : String) : Prop := s = "" ∨ ∃ a : ReferentialAction, a.name = s

theorem toList_actionClause (e : Event) {action : Option String} (h : ∀ s ∈ action, IsActionText s) :
    (Relation.actionClause e.name action).toList =
      Lexeme.allWritten (actionLexemes e (action.bind ReferentialAction.named?)) := by
  cases action with
  | none => rfl
  | some s =>
    rcases h s rfl with rfl | ⟨a, rfl⟩
    · rfl
    · rw [Option.bind_some, ReferentialAction.named?_name]
      cases e <;> cases a <;> decide

/-- The actions of the relation are known ones or are not given. -/
def Relation.HasKnownActions (r : Relation) : Prop :=
  (∀ s ∈ r.onDelete, IsActionText s) ∧ ∀ s ∈ r.onUpdate, IsActionText s

namespace NamedRelation

/-- The statement that adds the relation as a foreign key. -/
def key (n : NamedRelation) : AddKey :=
  { table := n.table
    column := n.column
    target := n.target
    targetColumn := n.targetColumn
    onDelete := n.onDelete.bind ReferentialAction.named?
    onUpdate := n.onUpdate.bind ReferentialAction.named? }

/-- A relation that was read is the one that its own statement asks for. -/
theorem relation_key_relation (k : AddKey) : k.relation.key.relation = k.relation := by
  obtain ⟨table, column, target, targetColumn, onDelete, onUpdate⟩ := k
  simp [AddKey.relation, key, ReferentialAction.named?_name]

end NamedRelation

theorem Relation.script?_eq {r : Relation} (h : r.HasKnownActions) (tables : List Table) :
    r.script? tables = (r.named? tables).map fun n => String.ofList (Lexeme.allWritten n.key.lexemes) := by
  rw [script?, named?, Option.map_map]
  refine Option.map_congr fun e _ => String.toList_inj.mp ?_
  have hdelete : (actionClause "DELETE" r.onDelete).toList = _ := toList_actionClause .delete h.1
  have hupdate : (actionClause "UPDATE" r.onUpdate).toList = _ := toList_actionClause .update h.2
  have hmargin : Lexeme.allWritten margin = '\n' :: indent.toList := by decide
  simp only [Function.comp_apply, String.toList_ofList, String.toList_append, NamedRelation.key, AddKey.lexemes,
    AddKey.frontLexemes, AddKey.referenceLexemes, Lexeme.allWritten_append, hdelete, hupdate, hmargin]
  simp [Lexeme.mark, Lexeme.verbatim, Lexeme.written, AddKey.constraintName, Relation.Ends.constraintName]

namespace Schema

variable {s p : Schema} {d : Dialect} {madeAt : String}

/-- The relations whose ends exist, by the names of these. -/
def namedRelations (s : Schema) : List NamedRelation := s.relations.filterMap (Relation.named? s.tables)

theorem foreignKeys_eq (h : ∀ r ∈ s.relations, r.HasKnownActions) :
    s.foreignKeys = s.namedRelations.map fun n => String.ofList (Lexeme.allWritten n.key.lexemes) := by
  rw [foreignKeys, namedRelations, List.map_filterMap]
  exact List.filterMap_congr fun r hr => Relation.script?_eq (h r hr) s.tables

/-! ### The text of a script -/

/-- Schemas of which all parts can be written: plain names, simple defaults and known actions. -/
structure IsLegible (s : Schema) (d : Dialect) : Prop where
  tableNames : ∀ t ∈ s.tables, IsPlain d t.name
  columnNames : ∀ t ∈ s.tables, ∀ c ∈ t.columns, IsPlain d c.name
  columns : ∀ t ∈ s.tables, t.columns ≠ []
  defaults : ∀ t ∈ s.tables, ∀ c ∈ t.columns, c.HasSimpleDefault
  actions : ∀ r ∈ s.relations, r.HasKnownActions

/-- The script of such a schema says as well which part is which. -/
structure IsWritable (s : Schema) (d : Dialect) : Prop extends s.IsLegible d where
  distinct : DistinctlyNamed s.tables

/-- A time of making that fits behind its mark: neither empty nor with blanks. -/
def IsStamp (madeAt : String) : Prop := madeAt ≠ "" ∧ ∀ c ∈ madeAt.toList, Text.isBlank c = false

/-- What stands behind the heading, each with an empty line in front. -/
noncomputable def entries (s : Schema) (d : Dialect) : List Entry :=
  (if s.tables.isEmpty then []
    else .note " Tables".toList :: s.tables.map fun t => .definition (.table (t.creation d))) ++
  (if s.relations.isEmpty then []
    else .note " Foreign Keys".toList :: s.namedRelations.map fun n => .definition (.key n.key))

noncomputable def page (s : Schema) (d : Dialect) (madeAt : String) : Page :=
  { first := .note " Generated by DBKeep".toList
    more := .note (" Database: " ++ d.name).toList :: .note (" Generated at: " ++ madeAt).toList ::
      (s.entries d).flatMap fun e => [.gap, e] }

theorem cons_flatMap_shift {α : Type} (a : α) (as : List α) :
    a :: as.flatMap (fun b => [b, a]) = as.flatMap (fun b => [a, b]) ++ [a] := by
  induction as with
  | nil => rfl
  | cons b as ih => simp [ih]

/-- The texts behind the heading. -/
def texts (s : Schema) (d : Dialect) : List String :=
  (if s.tables.isEmpty then [] else "-- Tables" :: s.tables.map (·.script d)) ++
  (if s.relations.isEmpty then [] else "-- Foreign Keys" :: s.foreignKeys)

theorem lines_eq (s : Schema) (d : Dialect) (madeAt : String) :
    heading d madeAt ++ s.tableLines d ++ s.relationLines =
      "-- Generated by DBKeep" :: ("-- Database: " ++ d.name) :: ("-- Generated at: " ++ madeAt) ::
        ((s.texts d).flatMap (fun x => ["", x]) ++ [""]) := by
  have htables : s.tableLines d =
      (if s.tables.isEmpty then [] else "-- Tables" :: s.tables.map (·.script d)).flatMap fun x => [x, ""] := by
    rw [tableLines]
    split <;> simp [List.flatMap_map]
  have hrelations : s.relationLines =
      (if s.relations.isEmpty then [] else "-- Foreign Keys" :: s.foreignKeys).flatMap fun x => [x, ""] := by
    rw [relationLines]
    split <;> simp
  rw [← cons_flatMap_shift, texts, List.flatMap_append, htables, hrelations]
  simp [heading]

theorem map_toList_texts (hs : s.IsLegible d) :
    (s.texts d).map String.toList = (s.entries d).map fun e => Lexeme.allWritten e.lexemes := by
  have htables : (s.tables.map (·.script d)).map String.toList =
      s.tables.map fun t => Lexeme.allWritten (t.creation d).lexemes := by
    rw [List.map_map]
    exact List.map_congr_left fun t ht => Table.toList_script (hs.columns t ht) (hs.defaults t ht)
  have hkeys : s.foreignKeys.map String.toList =
      s.namedRelations.map fun n => Lexeme.allWritten n.key.lexemes := by
    rw [foreignKeys_eq hs.actions, List.map_map]
    exact List.map_congr_left fun n _ => String.toList_ofList
  rw [texts, entries, List.map_append, List.map_append]
  congr 1
  · split
    · rfl
    · rw [List.map_cons, List.map_cons, htables, List.map_map]
      rfl
  · split
    · rfl
    · rw [List.map_cons, List.map_cons, hkeys, List.map_map]
      rfl

/-- The text ends with a character that is no blank. -/
def EndsSolid (cs : List Char) : Prop := ∃ c ∈ cs.getLast?, Text.isBlank c = false

theorem EndsSolid.append (as : List Char) {bs : List Char} (h : EndsSolid bs) : EndsSolid (as ++ bs) := by
  obtain ⟨c, hc, hsolid⟩ := h
  exact ⟨c, by rw [List.getLast?_append, Option.mem_def.mp hc]; rfl, hsolid⟩

theorem EndsSolid.flatMap {α : Type} {as : List Char} {xs : List α} {f : α → List Char} (has : EndsSolid as)
    (h : ∀ x ∈ xs, EndsSolid (f x)) : EndsSolid (as ++ xs.flatMap f) := by
  induction xs generalizing as with
  | nil => simpa using has
  | cons x xs ih =>
    rw [List.flatMap_cons, ← List.append_assoc]
    exact ih (.append as (h x (by simp))) fun y hy => h y (by simp [hy])

theorem endsSolid_definition {x : Definition} (hx : x.IsValid d) : EndsSolid (Lexeme.allWritten x.lexemes) := by
  obtain ⟨body, hlexemes, -, -⟩ := Definition.exists_body hx
  rw [hlexemes, Lexeme.allWritten_cons, Lexeme.allWritten_append]
  exact .append _ (.append _ ⟨';', rfl, rfl⟩)

theorem isValid_key (hs : s.IsLegible d) {n : NamedRelation} (hn : n ∈ s.namedRelations) : n.key.IsValid d := by
  obtain ⟨r, -, hr⟩ := List.mem_filterMap.mp hn
  obtain ⟨e, he, rfl⟩ := Option.map_eq_some_iff.mp hr
  obtain ⟨hsource, htarget⟩ := Relation.ends?_eq_some_iff.mp he
  obtain ⟨ht, -, hc, -⟩ := Endpoint.mem_of_find? hsource
  obtain ⟨ht', -, hc', -⟩ := Endpoint.mem_of_find? htarget
  intro name hname
  simp only [NamedRelation.key, List.mem_cons, List.not_mem_nil, or_false] at hname
  rcases hname with rfl | rfl | rfl | rfl
  · exact hs.tableNames _ ht
  · exact hs.columnNames _ ht _ hc
  · exact hs.tableNames _ ht'
  · exact hs.columnNames _ ht' _ hc'

theorem isValid_entries (hs : s.IsLegible d) : ∀ e ∈ s.entries d, e.IsValid d := by
  have hnote : ∀ x ∈ [" Tables", " Foreign Keys"], ∀ c ∈ x.toList, c ≠ '\n' ∧ c ≠ '\r' := by decide
  have htable : ∀ t ∈ s.tables, (t.creation d).IsValid d := fun t ht =>
    Table.isValid_creation (hs.columns t ht) (hs.tableNames t ht) (hs.columnNames t ht)
  intro e he
  rw [entries, List.mem_append] at he
  rcases he with he | he
  · split at he
    · cases he
    · rcases List.mem_cons.mp he with rfl | he
      · exact hnote " Tables" (by simp)
      · obtain ⟨t, ht, rfl⟩ := List.mem_map.mp he
        exact htable t ht
  · split at he
    · cases he
    · rcases List.mem_cons.mp he with rfl | he
      · exact hnote " Foreign Keys" (by simp)
      · obtain ⟨n, hn, rfl⟩ := List.mem_map.mp he
        exact isValid_key hs hn

theorem endsSolid_entries (hs : s.IsLegible d) : ∀ e ∈ s.entries d, EndsSolid (Lexeme.allWritten e.lexemes) := by
  have hnote : ∀ x ∈ [" Tables", " Foreign Keys"],
      EndsSolid (Lexeme.allWritten (Entry.note x.toList).lexemes) := by
    rintro x hx
    rcases List.mem_pair.mp hx with rfl | rfl
    · exact ⟨'s', by decide, by decide⟩
    · exact ⟨'s', by decide, by decide⟩
  intro e he
  have hvalid := isValid_entries hs e he
  rw [entries, List.mem_append] at he
  rcases he with he | he
  · split at he
    · cases he
    · rcases List.mem_cons.mp he with rfl | he
      · exact hnote " Tables" (by simp)
      · obtain ⟨t, -, rfl⟩ := List.mem_map.mp he
        exact endsSolid_definition (x := .table _) hvalid
  · split at he
    · cases he
    · rcases List.mem_cons.mp he with rfl | he
      · exact hnote " Foreign Keys" (by simp)
      · obtain ⟨n, -, rfl⟩ := List.mem_map.mp he
        exact endsSolid_definition (x := .key _) hvalid

theorem isValid_page (hs : s.IsLegible d) (hat : IsStamp madeAt) : (s.page d madeAt).IsValid d := by
  have hlines : ∀ c ∈ madeAt.toList, c ≠ '\n' ∧ c ≠ '\r' := by
    intro c hc
    have hblank := hat.2 c hc
    constructor <;> (rintro rfl; cases hblank)
  have hfirst : ∀ c ∈ " Generated by DBKeep".toList, c ≠ '\n' ∧ c ≠ '\r' := by decide
  have hdialect : ∀ c ∈ (" Database: " ++ d.name).toList, c ≠ '\n' ∧ c ≠ '\r' := by cases d <;> decide
  have hmark : ∀ c ∈ " Generated at: ".toList, c ≠ '\n' ∧ c ≠ '\r' := by decide
  have hmade : ∀ c ∈ (" Generated at: " ++ madeAt).toList, c ≠ '\n' ∧ c ≠ '\r' := by
    rw [String.toList_append, List.forall_mem_append]
    exact ⟨hmark, hlines⟩
  have hentries := isValid_entries hs
  intro e he
  rw [page, List.mem_cons, List.mem_cons, List.mem_cons, List.mem_flatMap] at he
  rcases he with rfl | rfl | rfl | ⟨x, hx, he⟩
  · exact hfirst
  · exact hdialect
  · exact hmade
  · rcases List.mem_pair.mp he with rfl | rfl
    · trivial
    · exact hentries _ hx

theorem filterMap_definition? {α : Type} (f : α → Definition) (note : List Char) (as : List α) :
    (Entry.note note :: as.map fun a => .definition (f a)).filterMap Entry.definition? = as.map f := by
  have hnote : (Entry.note note).definition? = none := rfl
  rw [List.filterMap_cons_none hnote, List.filterMap_map, ← List.filterMap_eq_map]
  rfl

theorem definitions_page (s : Schema) (d : Dialect) (madeAt : String) : (s.page d madeAt).Defines
    (s.tables.map (·.creation d)) (s.namedRelations.map NamedRelation.key) := by
  have htables : ((if s.tables.isEmpty then [] else
      .note " Tables".toList :: s.tables.map fun t => .definition (.table (t.creation d))) : List Entry).filterMap
        Entry.definition? = (s.tables.map (·.creation d)).map .table := by
    rw [List.map_map]
    split
    · next hempty => rw [List.isEmpty_iff.mp hempty]; rfl
    · exact filterMap_definition? (fun t : Table => .table (t.creation d)) _ _
  have hkeys : ((if s.relations.isEmpty then [] else
      .note " Foreign Keys".toList :: s.namedRelations.map fun n => .definition (.key n.key)) : List Entry).filterMap
        Entry.definition? = (s.namedRelations.map NamedRelation.key).map .key := by
    rw [List.map_map]
    split
    · next hempty => rw [namedRelations, List.isEmpty_iff.mp hempty]; rfl
    · exact filterMap_definition? (fun n : NamedRelation => .key n.key) _ _
  have hshift : ((s.entries d).flatMap fun e => [.gap, e]).filterMap Entry.definition? =
      (s.entries d).filterMap Entry.definition? := by
    rw [List.filterMap_flatMap, List.filterMap_eq_flatMap_toList]
    exact List.flatMap_congr fun e _ => by cases e <;> rfl
  show ((s.entries d).flatMap fun e => [.gap, e]).filterMap Entry.definition? = _
  rw [hshift, entries, List.filterMap_append, htables, hkeys]

/-- The entries stand behind the three lines of the heading. -/
theorem written_page (s : Schema) (d : Dialect) (madeAt : String) :
    (s.page d madeAt).written = "-- Generated by DBKeep".toList ++
      ('\n' :: ("-- Database: " ++ d.name).toList ++ ('\n' :: ("-- Generated at: " ++ madeAt).toList ++
        (s.entries d).flatMap fun e => '\n' :: '\n' :: Lexeme.allWritten e.lexemes)) := by
  have hentries : Lexeme.allWritten (Entry.restLexemes ((s.entries d).flatMap fun e => [.gap, e])) =
      (s.entries d).flatMap fun e => '\n' :: '\n' :: Lexeme.allWritten e.lexemes := by
    rw [Entry.restLexemes, List.flatMap_assoc, Lexeme.allWritten, List.flatMap_assoc]
    exact List.flatMap_congr fun e _ => by simp [Entry.lexemes, Lexeme.allWritten, Lexeme.written]
  rw [← hentries, Page.written, Page.lexemes, page]
  simp [Entry.restLexemes, Entry.lexemes, Lexeme.lineComment, Lexeme.written]

theorem endsSolid_page (hs : s.IsLegible d) (hat : IsStamp madeAt) : EndsSolid (s.page d madeAt).written := by
  have hmade : EndsSolid ('\n' :: ("-- Generated at: " ++ madeAt).toList) := by
    have hne : madeAt.toList ≠ [] := fun h => hat.1 (String.toList_eq_nil_iff.mp h)
    rw [String.toList_append, ← List.cons_append]
    exact .append _ ⟨_, List.getLast?_eq_some_getLast hne, hat.2 _ (List.getLast_mem hne)⟩
  rw [written_page]
  exact .append _ (.append _ (.flatMap hmade fun e he => .append ['\n', '\n'] (endsSolid_entries hs e he)))

/-- There are no blanks around a page; those behind it are cut off. -/
theorem strip_page (hs : s.IsLegible d) (hat : IsStamp madeAt) (es : List Char)
    (hes : ∀ e ∈ es, Text.isBlank e = true) :
    Text.strip (String.ofList ((s.page d madeAt).written ++ es)) = String.ofList (s.page d madeAt).written := by
  have hhead : ∀ c ∈ (s.page d madeAt).written.head?, Text.isBlank c = false := by
    rw [written_page]
    rintro c ⟨⟩
    decide
  have hlast : ∀ c ∈ (s.page d madeAt).written.getLast?, Text.isBlank c = false := by
    obtain ⟨c, hc, hblank⟩ := endsSolid_page hs hat
    intro c' hc'
    rwa [Option.mem_unique hc' hc]
  have hcut : Text.stripChars ([] ++ ((s.page d madeAt).written ++ es)) = (s.page d madeAt).written :=
    Text.stripChars_append nofun hes hhead hlast
  rw [Text.strip, String.toList_ofList]
  exact congrArg String.ofList hcut

/-- A script is the text of a page. -/
theorem script_eq (hs : s.IsLegible d) (hat : IsStamp madeAt) :
    s.script d madeAt = String.ofList (s.page d madeAt).written := by
  have hbody : ((s.texts d).flatMap (fun x => ["", x])).flatMap (fun x => '\n' :: x.toList) =
      (s.entries d).flatMap fun e => '\n' :: '\n' :: Lexeme.allWritten e.lexemes := by
    have hmap : ((s.texts d).flatMap (fun x => ["", x])).flatMap (fun x => '\n' :: x.toList) =
        ((s.texts d).map String.toList).flatMap fun cs => '\n' :: '\n' :: cs := by
      rw [List.flatMap_assoc, List.flatMap_map]
      exact List.flatMap_congr fun x _ => by simp
    rw [hmap, map_toList_texts hs, List.flatMap_map]
  have htext : ("\n".intercalate (heading d madeAt ++ s.tableLines d ++ s.relationLines)).toList =
      (s.page d madeAt).written ++ ['\n'] := by
    rw [lines_eq, Column.toList_intercalate_cons, written_page]
    simp [hbody]
  rw [script, ← strip_page hs hat ['\n'] (by decide), ← htext, String.ofList_toList]

/-- A script by its characters, whatever its parts are. -/
theorem toList_script (s : Schema) (d : Dialect) (madeAt : String) : (s.script d madeAt).toList =
    Text.stripChars ("-- Generated by DBKeep".toList ++
      (("-- Database: " ++ d.name) :: ("-- Generated at: " ++ madeAt) ::
        ((s.texts d).flatMap (fun x => ["", x]) ++ [""])).flatMap fun x => "\n".toList ++ x.toList) := by
  rw [script, Text.strip, String.toList_ofList, lines_eq, Column.toList_intercalate_cons]

theorem script_ne_blank (s : Schema) (d : Dialect) (madeAt : String) : Text.strip (s.script d madeAt) ≠ "" := by
  have hblank : Text.isBlank '-' = false := by decide
  refine Text.strip_ne_empty hblank ?_
  rw [toList_script]
  exact Text.mem_stripChars hblank (List.mem_append_left _ (by decide))

end Schema

end SchemaDesk

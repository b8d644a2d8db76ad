import SchemaDesk.Proofs.Choice
import SchemaDesk.Proofs.Extraction.Source
import SchemaDesk.Proofs.Text.Search
/-!
The actions of a reference. What it says on deleted rows and what it says on updated ones are decided apart: by the
last entry of its list of actions that is on the event and has a wording, and only where there is no such entry by the
field of the reference or else of the item that holds it.
-/

namespace SchemaDesk

/-- The value holds a text, whose words in upper case with single spaces are the wording. -/
def Value.HasWording (v : Value) (w : String) : Prop :=
  ∃ s, v.nameText? = some s ∧ s ≠ "" ∧ Text.collapse (Text.upper s) = w

namespace Actions

variable {v entry : Value} {entries : List Value} {w : String}

theorem wording?_eq_some_iff : wording? v = some w ↔ v.HasWording w := by
  rw [wording?, Option.map_eq_some_iff]
  exact ⟨fun ⟨s, hs, hw⟩ => ⟨s, hs, v.ne_empty_of_nameText? hs, hw⟩, fun ⟨s, hs, _, hw⟩ => ⟨s, hs, hw⟩⟩

/-! ### Entries of the list of actions -/

/-- The entry is on deleted rows: its type mentions them in some letter case. -/
def OnDelete (entry : Value) : Prop := entry.isRecord = true ∧ "delete".toList <:+: (entryEvent entry).toList

/-- The entry is on updated rows. One whose type mentions deleted rows as well is on these. -/
def OnUpdate (entry : Value) : Prop :=
  entry.isRecord = true ∧ "update".toList <:+: (entryEvent entry).toList ∧
    ¬ "delete".toList <:+: (entryEvent entry).toList

theorem onDelete_iff : (entry.isRecord && isDelete entry) = true ↔ OnDelete entry := by
  rw [Bool.and_eq_true, isDelete, Text.hasWord_iff]
  exact Iff.rfl

theorem onUpdate_iff : (entry.isRecord && isUpdate entry) = true ↔ OnUpdate entry := by
  rw [Bool.and_eq_true, isUpdate, Bool.and_eq_true, Bool.not_eq_true', Bool.eq_false_iff, isDelete, ne_eq,
    Text.hasWord_iff, Text.hasWord_iff, and_comm (a := ¬ _)]
  exact Iff.rfl

instance : DecidablePred OnDelete := fun _ => decidable_of_iff _ onDelete_iff

instance : DecidablePred OnUpdate := fun _ => decidable_of_iff _ onUpdate_iff

/-- The wording of an entry of the kind. Blank ones do not count. -/
structure Gives (kind : Value → Prop) (entry : Value) (w : String) : Prop where
  kind : kind entry
  wording : (entry.get "value").HasWording w
  nonempty : w ≠ ""

/-- The wording of the last entry of the kind that has one. -/
def LastWording (kind : Value → Prop) (entries : List Value) (w : String) : Prop :=
  ∃ before entry after, entries = before ++ entry :: after ∧ Gives kind entry w ∧
    ∀ later ∈ after, ∀ w', ¬ Gives kind later w'

theorem entryWording?_eq_some_iff :
    entryWording? entry = some w ↔ (entry.get "value").HasWording w ∧ w ≠ "" := by
  rw [entryWording?, Option.filter_eq_some_iff, wording?_eq_some_iff, bne_iff_ne]

/-- One more entry decides if it has a wording, else it changes nothing. -/
theorem lastWording_concat_iff {kind : Value → Prop} :
    LastWording kind (entries ++ [entry]) w ↔
      Gives kind entry w ∨ (∀ w', ¬ Gives kind entry w') ∧ LastWording kind entries w := by
  constructor
  · rintro ⟨before, e, after, hsplit, hgives, hlater⟩
    rcases List.eq_nil_or_concat after with rfl | ⟨after, last, rfl⟩
    · obtain ⟨-, heq⟩ := List.append_inj' hsplit rfl
      obtain rfl := (List.cons.inj heq).1
      exact Or.inl hgives
    · rw [List.concat_eq_append, ← List.cons_append, ← List.append_assoc] at hsplit
      obtain ⟨hinit, heq⟩ := List.append_inj' hsplit rfl
      obtain rfl := (List.cons.inj heq).1
      exact Or.inr ⟨hlater _ (by simp), before, e, after, hinit, hgives, fun x hx => hlater x (by simp [hx])⟩
  · rintro (hgives | ⟨hnone, before, e, after, rfl, hgives, hlater⟩)
    · exact ⟨entries, entry, [], rfl, hgives, nofun⟩
    · refine ⟨before, e, after ++ [entry], by simp, hgives, fun x hx => ?_⟩
      rcases List.mem_append.mp hx with hx | hx
      · exact hlater x hx
      · rwa [List.mem_singleton.mp hx]

variable {kind : Value → Prop} {isKind : Value → Bool}

theorem lastWording?_concat_of_kind (hentry : (entry.isRecord && isKind entry) = true) :
    lastWording? isKind (entries ++ [entry]) = (entryWording? entry).or (lastWording? isKind entries) := by
  have hlast : [entry].filter (fun e => e.isRecord && isKind e) = [entry] := List.filter_cons_of_pos hentry
  rw [lastWording?, List.filter_append, hlast, List.filterMap_append, List.getLast?_append, ← lastWording?]
  cases hw : entryWording? entry <;> simp [hw]

theorem lastWording?_concat_of_not_kind (hentry : ¬ (entry.isRecord && isKind entry) = true) :
    lastWording? isKind (entries ++ [entry]) = lastWording? isKind entries := by
  have hlast : [entry].filter (fun e => e.isRecord && isKind e) = [] := List.filter_cons_of_neg hentry
  rw [lastWording?, List.filter_append, hlast, List.append_nil, ← lastWording?]

theorem lastWording?_eq_some_iff (hkind : ∀ {e : Value}, (e.isRecord && isKind e) = true ↔ kind e) :
    lastWording? isKind entries = some w ↔ LastWording kind entries w := by
  -- from the left to the right, each entry may replace what the entries before it have said
  induction entries using List.reverseRecOn with
  | nil => exact iff_of_false nofun fun ⟨before, e, after, hsplit, _⟩ => by simp at hsplit
  | append_singleton entries entry ih =>
    rw [lastWording_concat_iff]
    have hgives (w' : String) (hentry : kind entry) : Gives kind entry w' ↔ entryWording? entry = some w' := by
      rw [entryWording?_eq_some_iff]
      exact ⟨fun h => ⟨h.wording, h.nonempty⟩, fun h => ⟨hentry, h.1, h.2⟩⟩
    by_cases hentry : kind entry
    · rw [lastWording?_concat_of_kind (hkind.mpr hentry), hgives w hentry]
      simp only [hgives _ hentry]
      cases entryWording? entry with
      | none => simpa using ih
      | some x => simp
    · rw [lastWording?_concat_of_not_kind (hkind.not.mpr hentry), ih]
      have hnone (w' : String) : ¬ Gives kind entry w' := fun h => hentry h.kind
      simp [hnone]

/-! ### The two events -/

/-- What is said on an event: the wording of the last entry on it, else that of the field of the reference, else that
of the field of the item. -/
def IsDecided (kind : Value → Prop) (field : String) (reference item : Value) : Option String → Prop :=
  FirstGiven [LastWording kind (reference.get "on_action").asList, (reference.get field).HasWording,
    (item.get field).HasWording]

/-- The same entries on an event in the same order, whatever entries stand between them. The fields are the same as
well, unless some entry has a wording. -/
structure SameOn (kind : Value → Prop) [DecidablePred kind] (field : String)
    (reference item reference' item' : Value) : Prop where
  entries : (reference'.get "on_action").asList.filter (kind ·) = (reference.get "on_action").asList.filter (kind ·)
  fields : (∃ w, LastWording kind (reference.get "on_action").asList w) ∨
    (reference'.get field = reference.get field ∧ item'.get field = item.get field)

/-- What the list and the fields say on one event. -/
def decision? (isKind : Value → Bool) (field : String) (reference item : Value) : Option String :=
  firstSome [lastWording? isKind (reference.get "on_action").asList, wording? (reference.get field),
    wording? (item.get field)]

variable {field : String} {reference item reference' item' : Value}

theorem isDecided_decision? (hkind : ∀ {e : Value}, (e.isRecord && isKind e) = true ↔ kind e) :
    IsDecided kind field reference item (decision? isKind field reference item) :=
  firstGiven_firstSome (.cons (fun _ => lastWording?_eq_some_iff hkind)
    (.cons (fun _ => wording?_eq_some_iff) (.cons (fun _ => wording?_eq_some_iff) .nil)))

theorem SameOn.decision?_eq [DecidablePred kind] (hkind : ∀ {e : Value}, (e.isRecord && isKind e) = true ↔ kind e)
    (h : SameOn kind field reference item reference' item') :
    decision? isKind field reference' item' = decision? isKind field reference item := by
  have hfilter (entries : List Value) :
      entries.filter (fun e => e.isRecord && isKind e) = entries.filter (kind ·) :=
    List.filter_congr fun e _ => by rw [Bool.eq_iff_iff, hkind, decide_eq_true_iff]
  have hlast : lastWording? isKind (reference'.get "on_action").asList =
      lastWording? isKind (reference.get "on_action").asList := by
    rw [lastWording?, lastWording?, hfilter, hfilter, h.entries]
  rw [decision?, decision?, hlast]
  rcases h.fields with ⟨w, hw⟩ | ⟨hreference, hitem⟩
  · rw [(lastWording?_eq_some_iff hkind).mpr hw]
    rfl
  · rw [hreference, hitem]

/-- Both events are decided by their own entries and fields, and neither depends on those of the other one. -/
theorem isDecided_ofReference (reference item : Value) :
    IsDecided OnDelete "on_delete" reference item (ofReference reference item).onDelete ∧
      IsDecided OnUpdate "on_update" reference item (ofReference reference item).onUpdate ∧
      ∀ reference' item',
        (SameOn OnDelete "on_delete" reference item reference' item' →
          (ofReference reference' item').onDelete = (ofReference reference item).onDelete) ∧
        (SameOn OnUpdate "on_update" reference item reference' item' →
          (ofReference reference' item').onUpdate = (ofReference reference item).onUpdate) :=
  ⟨isDecided_decision? onDelete_iff, isDecided_decision? onUpdate_iff,
    fun _ _ => ⟨SameOn.decision?_eq onDelete_iff, SameOn.decision?_eq onUpdate_iff⟩⟩

/-- An entry of the list of actions. -/
def entryOf (type value : String) : Value := .record [("type", .text type), ("value", .text value)]

/-- A reference with entries on both events, a blank one among them, and a field that disagrees with them. -/
def nulling : Value := .record [
  ("on_action", .list [entryOf "on update" "cascade", entryOf "ON DELETE" "set  null", entryOf "on delete" " "]),
  ("on_delete", .text "RESTRICT")]

/-- The same entries on deleted rows, other ones on updated rows, and no field. -/
def nullingReordered : Value := .record [
  ("on_action", .list [entryOf "ON DELETE" "set  null", entryOf "on update" "restrict", entryOf "on delete" " ",
    entryOf "on update" "no action"])]

theorem sameOn_nulling : SameOn OnDelete "on_delete" nulling .null nullingReordered .null where
  entries := rfl
  fields := Or.inl ⟨"SET NULL", (lastWording?_eq_some_iff onDelete_iff).mp (by decide +kernel)⟩

theorem isDecided_nulling :
    SameOn OnDelete "on_delete" nulling .null nullingReordered .null ∧
      IsDecided OnDelete "on_delete" nulling .null (some "SET NULL") ∧
      (ofReference nullingReordered .null).onDelete = some "SET NULL" := by
  obtain ⟨hdelete, -, hsame⟩ := isDecided_ofReference nulling .null
  have hvalue : (ofReference nulling .null).onDelete = some "SET NULL" := by decide +kernel
  rw [hvalue] at hdelete hsame
  exact ⟨sameOn_nulling, hdelete, (hsame nullingReordered .null).1 sameOn_nulling⟩

end Actions

end SchemaDesk

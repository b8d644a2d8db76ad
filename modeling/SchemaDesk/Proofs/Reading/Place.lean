import SchemaDesk.Proofs.Choice
import SchemaDesk.Proofs.Text.Caseless
import SchemaDesk.Reading.Locate
/-!
The place of a raised error. Its line and its column are found apart, each in the first of three sources that has a
positive number for it: the start of the location, the error itself, and its message. How the parts of the location
and of its start are kept does not matter.
-/

namespace SchemaDesk

/-! ### Numbers -/

namespace Text

variable {cs : List Char} {n : Nat}

/-- The number that some digits write, decimal ones of any script. -/
def Denotes (cs : List Char) (n : Nat) : Prop :=
  cs ≠ [] ∧ ∃ ds : List Nat, List.Forall₂ (fun c d => digitValue? c = some d) cs ds ∧
    n = ds.foldl (fun m d => 10 * m + d) 0

theorem readDigits_of_digits {ds : List Nat} (h : List.Forall₂ (fun c d => digitValue? c = some d) cs ds)
    (acc : Nat) : readDigits acc cs = some (ds.foldl (fun m d => 10 * m + d) acc) := by
  induction h generalizing acc with
  | nil => rfl
  | @cons c d cs ds hd _ ih =>
    have hunderscore : c ≠ '_' := by
      rintro rfl
      cases hd
    rw [readDigits.eq_def]
    split
    · next heq => cases heq
    · next heq => exact (hunderscore (List.cons.inj heq).1).elim
    · next heq =>
      obtain ⟨rfl, rfl⟩ := List.cons.inj heq
      simp only [hd, ih, List.foldl_cons]

theorem Denotes.readNat?_eq (h : Denotes cs n) : readNat? cs = some n := by
  obtain ⟨hne, ds, hds, rfl⟩ := h
  cases hds with
  | nil => exact (hne rfl).elim
  | cons hd hds =>
    rw [readNat?, hd, Option.bind_some, readDigits_of_digits hds, List.foldl_cons, Nat.mul_zero, Nat.zero_add]

theorem Denotes.isDecimal (h : Denotes cs n) : ∀ c ∈ cs, isDecimal c = true := by
  obtain ⟨-, ds, hds, -⟩ := h
  induction hds with
  | nil => exact nofun
  | cons hd _ ih => exact List.forall_mem_cons.mpr ⟨by rw [Text.isDecimal, hd]; rfl, ih⟩

theorem exists_denotes (hne : cs ≠ []) (h : ∀ c ∈ cs, isDecimal c = true) : ∃ n, Denotes cs n := by
  refine ⟨_, hne, cs.map fun c => (digitValue? c).getD 0, ?_, rfl⟩
  refine List.forall₂_map_right_iff.mpr (List.forall₂_same.mpr fun c hc => ?_)
  obtain ⟨d, hd⟩ := Option.isSome_iff_exists.mp (h c hc)
  rw [hd, Option.getD_some]

theorem readNat?_eq_some_iff (h : ∀ c ∈ cs, isDecimal c = true) : readNat? cs = some n ↔ Denotes cs n := by
  refine ⟨fun hread => ?_, Denotes.readNat?_eq⟩
  have hne : cs ≠ [] := by
    rintro rfl
    cases hread
  obtain ⟨m, hm⟩ := exists_denotes hne h
  rwa [← Option.some.inj (hm.readNat?_eq.symm.trans hread)]

end Text

namespace Value

/-- The value gives a number for a place: a positive integer, or a text of digits that denote one. -/
inductive GivesPlace : Value → Nat → Prop
  | int {n : Nat} (hn : 0 < n) : GivesPlace (.int n) n
  | text {s : String} {n : Nat} (h : Text.Denotes s.toList n) (hn : 0 < n) : GivesPlace (.text s) n

/-- The value is no text of digits, or all of these are decimal ones. -/
def HasDecimals (v : Value) : Prop :=
  ∀ s, v = .text s → Text.allDigits s.toList = true → ∀ c ∈ s.toList, Text.isDecimal c = true

/-- Every value has a position, which is zero if it gives no place. -/
theorem HasDecimals.exists_position {v : Value} (h : v.HasDecimals) :
    ∃ n, ErrorReport.position v = .ok n ∧ ∀ m, n = m ∧ 0 < m ↔ v.GivesPlace m := by
  cases v with
  | int k =>
    refine ⟨k.toNat, rfl, fun m => ⟨?_, ?_⟩⟩
    · rintro ⟨rfl, hpos⟩
      have hk : k = (k.toNat : Int) := by omega
      have hplace := GivesPlace.int hpos
      rwa [← hk] at hplace
    · rintro ⟨hpos⟩
      exact ⟨Int.toNat_natCast _, hpos⟩
  | text s =>
    by_cases hdigits : Text.allDigits s.toList = true
    · have hne : s.toList ≠ [] := by
        intro hnil
        rw [hnil] at hdigits
        cases hdigits
      obtain ⟨n, hn⟩ := Text.exists_denotes hne (h s rfl hdigits)
      refine ⟨n, by simp [ErrorReport.position, hdigits, hn.readNat?_eq], fun m => ⟨?_, ?_⟩⟩
      · rintro ⟨rfl, hpos⟩
        exact .text hn hpos
      · rintro (_ | ⟨hdenotes, hpos⟩)
        exact ⟨Option.some.inj (hn.readNat?_eq.symm.trans hdenotes.readNat?_eq), hpos⟩
    · refine ⟨0, by simp [ErrorReport.position, hdigits], fun m => iff_of_false (by omega) ?_⟩
      rintro (_ | ⟨hdenotes, -⟩)
      refine hdigits ?_
      simp only [Text.allDigits, Bool.and_eq_true, Bool.not_eq_true', List.isEmpty_eq_false_iff, List.all_eq_true]
      exact ⟨hdenotes.1, fun c hc => by simp [Text.isDigit, hdenotes.isDecimal c hc]⟩
  | null | bool | real | list | record => exact ⟨0, rfl, fun m => iff_of_false (by omega) nofun⟩

end Value

/-! ### Messages -/

namespace ErrorReport

variable {cs : List Char} {word : String} {n : Nat}

/-- A text starts with a word in any letter case, and behind it there is a number: blanks may stand between them, with
a colon among these, and the number has all the digits that there are. -/
inductive NumberBehind (word : String) : List Char → Nat → Prop
  | mk {spelled gap colon gap' digits rest : List Char} {n : Nat} (hword : Text.Spells word spelled)
      (hgap : ∀ b ∈ gap, Text.isBlank b = true) (hcolon : colon = [] ∨ colon = [':'])
      (hgap' : ∀ b ∈ gap', Text.isBlank b = true) (hdigits : Text.Denotes digits n)
      (hrest : ∀ c ∈ rest.head?, Text.isDecimal c = false) :
      NumberBehind word (spelled ++ (gap ++ (colon ++ (gap' ++ (digits ++ rest))))) n

/-- The number behind the first of some words in a message that has a number behind it. -/
def Mentions (words : List String) (message : String) (n : Nat) : Prop :=
  ∃ before rest, message.toList = before ++ rest ∧ (∃ w ∈ words, NumberBehind w rest n) ∧
    ∀ j < before.length, ∀ w ∈ words, ∀ m, ¬ NumberBehind w (message.toList.drop j) m

/-- The text behind an optional colon and the blanks that follow it. -/
def dropColon (cs : List Char) : List Char :=
  match cs with
  | ':' :: cs => Text.dropBlanks cs
  | cs => cs

theorem numberAfter?_eq (word : String) (cs : List Char) :
    numberAfter? word cs = (Text.dropCaseless? word.toList cs).bind fun rest =>
      Text.readNat? ((dropColon (Text.dropBlanks rest)).takeWhile Text.isDecimal) := rfl

theorem dropColon_of_ne (h : ∀ c ∈ cs.head?, c ≠ ':') : dropColon cs = cs := by
  unfold dropColon
  split
  · exact (h ':' rfl rfl).elim
  · rfl

theorem exists_eq_append_dropColon (cs : List Char) :
    ∃ colon gap, (colon = [] ∨ colon = [':']) ∧ (∀ b ∈ gap, Text.isBlank b = true) ∧
      cs = colon ++ (gap ++ dropColon cs) := by
  unfold dropColon
  split
  · next rest =>
    obtain ⟨gap, hgap, hsplit⟩ := Text.exists_eq_append_dropBlanks rest
    exact ⟨[':'], gap, Or.inr rfl, hgap, by rw [← hsplit, List.singleton_append]⟩
  · exact ⟨[], [], Or.inl rfl, nofun, rfl⟩

theorem numberAfter?_eq_some_iff : numberAfter? word cs = some n ↔ NumberBehind word cs n := by
  rw [numberAfter?_eq, Option.bind_eq_some_iff]
  constructor
  · rintro ⟨behind, hbehind, hread⟩
    obtain ⟨spelled, hword, rfl⟩ := Text.dropCaseless?_eq_some_iff.mp hbehind
    obtain ⟨gap, hgap, hblanks⟩ := Text.exists_eq_append_dropBlanks behind
    obtain ⟨colon, gap', hcolon, hgap', hdrop⟩ := exists_eq_append_dropColon (Text.dropBlanks behind)
    have hdigits := (Text.readNat?_eq_some_iff fun c hc => List.mem_takeWhile_imp hc).mp hread
    have hrest : ∀ c ∈ ((dropColon (Text.dropBlanks behind)).dropWhile Text.isDecimal).head?,
        Text.isDecimal c = false := by
      intro c hc
      have hhead := List.head?_dropWhile_not Text.isDecimal (dropColon (Text.dropBlanks behind))
      rw [Option.mem_def.mp hc] at hhead
      simpa using hhead
    have hnumber := NumberBehind.mk hword hgap hcolon hgap' hdigits hrest
    rwa [List.takeWhile_append_dropWhile, ← hdrop, ← hblanks] at hnumber
  · rintro ⟨hword, hgap, hcolon, hgap', hdigits, hrest⟩
    rename_i spelled gap colon gap' digits rest
    refine ⟨_, Text.dropCaseless?_eq_some_iff.mpr ⟨spelled, hword, rfl⟩, ?_⟩
    have hhead : ∀ c ∈ (digits ++ rest).head?, Text.isDecimal c = true := by
      intro c hc
      rw [List.head?_append_of_ne_nil _ hdigits.1] at hc
      exact hdigits.isDecimal c (List.mem_of_head? hc)
    have hsolid : ∀ c ∈ (digits ++ rest).head?, Text.isBlank c = false :=
      fun c hc => Text.isBlank_of_isDecimal (hhead c hc)
    have hdrop : dropColon (Text.dropBlanks (gap ++ (colon ++ (gap' ++ (digits ++ rest))))) = digits ++ rest := by
      rcases hcolon with rfl | rfl
      · have hgaps : ∀ b ∈ gap ++ gap', Text.isBlank b = true := List.forall_mem_append.mpr ⟨hgap, hgap'⟩
        rw [List.nil_append, ← List.append_assoc, Text.dropBlanks_append hgaps hsolid]
        refine dropColon_of_ne fun c hc => ?_
        rintro rfl
        cases hhead ':' hc
      · rw [List.singleton_append, Text.dropBlanks_append hgap (by simp [Text.isBlank])]
        exact Text.dropBlanks_append hgap' hsolid
    rw [hdrop, Text.takeWhile_run hdigits.isDecimal hrest, hdigits.readNat?_eq]

/-- Behind the word there is a blank, a colon or a digit. -/
theorem NumberBehind.exists_head (h : NumberBehind word cs n) :
    ∃ spelled c rest, cs = spelled ++ c :: rest ∧ Text.Spells word spelled ∧
      (Text.isBlank c = true ∨ c = ':' ∨ Text.isDecimal c = true) := by
  obtain ⟨hword, hgap, hcolon, hgap', hdigits, -⟩ := h
  rename_i spelled gap colon gap' digits rest
  cases gap with
  | cons b gap => exact ⟨spelled, b, _, rfl, hword, Or.inl (hgap b (by simp))⟩
  | nil =>
    rcases hcolon with rfl | rfl
    · cases gap' with
      | cons b gap' => exact ⟨spelled, b, _, rfl, hword, Or.inl (hgap' b (by simp))⟩
      | nil =>
        cases digits with
        | nil => exact (hdigits.1 rfl).elim
        | cons d digits => exact ⟨spelled, d, _, rfl, hword, Or.inr (Or.inr (hdigits.isDecimal d (by simp)))⟩
    · exact ⟨spelled, ':', _, rfl, hword, Or.inr (Or.inl rfl)⟩

/-- No text has a number behind both spellings of the word. -/
theorem not_numberBehind_col {m : Nat} (h : NumberBehind "column" cs m) : ¬ NumberBehind "col" cs n := by
  intro hshort
  obtain ⟨spelled, c, rest, rfl, hword, hc⟩ := hshort.exists_head
  obtain ⟨long, c', rest', hsplit, hlong, -⟩ := h.exists_head
  rw [Text.Spells, show "col".toList = ['c', 'o', 'l'] from rfl] at hword
  rw [Text.Spells, show "column".toList = ['c', 'o', 'l', 'u', 'm', 'n'] from rfl] at hlong
  -- the letter `u` of the long spelling stands where the short one has ended
  rcases hword with _ | ⟨-, _ | ⟨-, _ | ⟨-, _ | _⟩⟩⟩
  rcases hlong with _ | ⟨-, _ | ⟨-, _ | ⟨-, _ | ⟨hu, -⟩⟩⟩⟩
  obtain rfl := (List.cons.inj (List.cons.inj (List.cons.inj (List.cons.inj hsplit).2).2).2).1
  have hletter : c = 'u' ∨ c = 'U' := by simpa [Text.isLetter] using hu
  rcases hletter with rfl | rfl <;> revert hc <;> decide +kernel

theorem firstMatch_eq_some_iff_mentions {find : List Char → Option Nat} {words : List String}
    (hfind : ∀ cs n, find cs = some n ↔ ∃ w ∈ words, NumberBehind w cs n) (message : String) :
    Text.firstMatch find message.toList = some n ↔ Mentions words message n := by
  have hnone (cs : List Char) : find cs = none ↔ ∀ w ∈ words, ∀ m, ¬ NumberBehind w cs m := by
    rw [Option.eq_none_iff_forall_ne_some]
    exact ⟨fun h w hw m hm => h m ((hfind cs m).mpr ⟨w, hw, hm⟩),
      fun h m hm => by obtain ⟨w, hw, hm⟩ := (hfind cs m).mp hm; exact h w hw m hm⟩
  rw [Text.firstMatch_eq_some_iff, Mentions]
  simp only [hfind, hnone]

theorem lineIn?_eq_some_iff (message : String) : lineIn? message = some n ↔ Mentions ["line"] message n := by
  refine firstMatch_eq_some_iff_mentions (fun cs n => ?_) message
  rw [numberAfter?_eq_some_iff]
  simp

theorem columnIn?_eq_some_iff (message : String) :
    columnIn? message = some n ↔ Mentions ["column", "col"] message n := by
  refine firstMatch_eq_some_iff_mentions (fun cs n => ?_) message
  rw [Option.or_eq_some_iff, numberAfter?_eq_some_iff, numberAfter?_eq_some_iff]
  constructor
  · rintro (h | ⟨-, h⟩)
    · exact ⟨"column", by simp, h⟩
    · exact ⟨"col", by simp, h⟩
  · rintro ⟨w, hw, h⟩
    rcases List.mem_pair.mp hw with rfl | rfl
    · exact Or.inl h
    · refine Or.inr ⟨Option.eq_none_iff_forall_ne_some.mpr fun m hm => ?_, h⟩
      exact not_numberBehind_col (numberAfter?_eq_some_iff.mp hm) h

/-! ### Choosing among the sources -/

/-- The first positive one of some numbers, or else one. -/
def firstPositive (ns : List (Option Nat)) : Nat := (firstSome (ns.map (·.filter (0 < ·)))).getD 1

theorem locate_of_positions {e : ErrorReport} {startLine startColumn line column : Nat}
    (hstartLine : position (e.start.get "line") = .ok startLine)
    (hstartColumn : position (e.start.get "column") = .ok startColumn)
    (hline : position e.line = .ok line) (hcolumn : position e.column = .ok column) :
    e.locate = .ok
      (firstPositive [some startLine, some line, lineIn? (e.message.orElse (.text e.text)).display],
        firstPositive [some startColumn, some column, columnIn? (e.message.orElse (.text e.text)).display]) := by
  have hor (n m : Nat) (v : Value) (hv : position v = .ok m) :
      positionOr n v = .ok (if n = 0 then m else n) := by
    rw [positionOr]
    by_cases hn : n = 0 <;> simp [hn, hv]
  have hchoice (n m : Nat) (found : Option Nat) : firstPositive [some n, some m, found] =
      let chosen := if n = 0 then m else n
      let chosen := if chosen == 0 then found.getD 0 else chosen
      if chosen == 0 then 1 else chosen := by
    cases n <;> cases m <;> rcases found with _ | _ | k <;> rfl
  rw [hchoice, hchoice, locate, hstartLine, hstartColumn]
  simp only [bind, Except.bind, hor _ _ _ hline, hor _ _ _ hcolumn, pure, Except.pure]

end ErrorReport

/-! ### Raised errors -/

namespace Holder

variable {α : Type}

/-- The parts by themselves. -/
def parts : Holder α → List (String × α)
  | record fields => fields
  | object attributes => attributes

theorem field?_or_attribute? (h : Holder α) (name : String) :
    (h.field? name).or (h.attribute? name) = h.parts.lookup name := by
  cases h with
  | record fields => exact Option.or_none
  | object attributes => rfl

theorem attribute?_join_or {β : Type} (h : Holder (Option β)) (name : String) :
    ((h.attribute? name).join).or ((h.field? name).join) = (h.parts.lookup name).join := by
  cases h with
  | record fields => rfl
  | object attributes => exact Option.or_none

end Holder

namespace RaisedError

variable {e e' : RaisedError} {name : String} {v : Value} {n : Nat}

/-- What the error says of itself. -/
def messageText (e : RaisedError) : String := (e.message.orElse (.text e.text)).display

/-- The error carries a location whose start has the value as a part of that name. -/
def StartHas (e : RaisedError) (name : String) (v : Value) : Prop :=
  ∃ location start, e.location = some location ∧ location.parts.lookup "start" = some (some start) ∧
    start.parts.lookup name = some v

theorem startHas_iff : e.StartHas name v ↔
    (e.start?.bind fun s => (s.field? name).or (s.attribute? name)) = some v := by
  simp only [start?, Holder.field?_or_attribute?, Holder.attribute?_join_or, Option.bind_eq_some_iff,
    Option.join_eq_some_iff, StartHas]
  constructor
  · rintro ⟨location, start, hlocation, hstart, hv⟩
    exact ⟨start, ⟨location, hlocation, hstart⟩, hv⟩
  · rintro ⟨start, ⟨location, hlocation, hstart⟩, hv⟩
    exact ⟨location, start, hlocation, hstart, hv⟩

theorem startPart_eq (h : e.StartHas name v) : e.startPart name = v := by
  rw [startPart, startHas_iff.mp h, Option.getD_some]

theorem startPart_eq_null (h : ∀ v, ¬ e.StartHas name v) : e.startPart name = .null := by
  have hnone := Option.eq_none_iff_forall_ne_some.mpr fun v hv => h v (startHas_iff.mpr hv)
  rw [startPart, hnone, Option.getD_none]

theorem givesPlace_startPart_iff :
    (e.startPart name).GivesPlace n ↔ ∃ v, e.StartHas name v ∧ v.GivesPlace n := by
  constructor
  · intro h
    by_cases hhas : ∃ v, e.StartHas name v
    · obtain ⟨v, hv⟩ := hhas
      rw [startPart_eq hv] at h
      exact ⟨v, hv, h⟩
    · rw [startPart_eq_null (not_exists.mp hhas)] at h
      cases h
  · rintro ⟨v, hv, hn⟩
    rwa [startPart_eq hv]

/-- The number is the first positive one of those that the start of the location has, that the error has itself, and
that stands behind one of the words in the message; it is one if there is none. -/
def IsPlace (e : RaisedError) (name : String) (own : Value) (words : List String) (n : Nat) : Prop :=
  ∃ first, FirstGiven [fun n => ∃ v, e.StartHas name v ∧ v.GivesPlace n, own.GivesPlace,
    fun n => ErrorReport.Mentions words e.messageText n ∧ 0 < n] first ∧ n = first.getD 1

def IsLine (e : RaisedError) : Nat → Prop := e.IsPlace "line" e.line ["line"]

def IsColumn (e : RaisedError) : Nat → Prop := e.IsPlace "column" e.column ["column", "col"]

/-- No part of the place is a text with digits other than decimal ones. -/
structure HasDecimals (e : RaisedError) : Prop where
  start : ∀ name ∈ ["line", "column"], ∀ v, e.StartHas name v → v.HasDecimals
  line : e.line.HasDecimals
  column : e.column.HasDecimals

/-- The errors have the same to say of their lines. -/
structure SameLine (e e' : RaisedError) : Prop where
  start : ∀ v, e.StartHas "line" v ↔ e'.StartHas "line" v
  line : e.line = e'.line
  messageText : e.messageText = e'.messageText

/-- The errors have the same to say of their columns. -/
structure SameColumn (e e' : RaisedError) : Prop where
  start : ∀ v, e.StartHas "column" v ↔ e'.StartHas "column" v
  column : e.column = e'.column
  messageText : e.messageText = e'.messageText

/-- The parts of the location, and those of its start, however these are kept. -/
def locationParts (e : RaisedError) : Option (List (String × Option (List (String × Value)))) :=
  e.location.map fun location => location.parts.map fun p => (p.1, p.2.map Holder.parts)

/-- The errors carry the same parts, each kept in one way or the other. -/
structure SameParts (e e' : RaisedError) : Prop where
  text : e.text = e'.text
  message : e.message = e'.message
  line : e.line = e'.line
  column : e.column = e'.column
  location : e.locationParts = e'.locationParts

theorem HasDecimals.startPart (h : e.HasDecimals) (hname : name ∈ ["line", "column"]) :
    (e.startPart name).HasDecimals := by
  by_cases hhas : ∃ v, e.StartHas name v
  · obtain ⟨v, hv⟩ := hhas
    rw [startPart_eq hv]
    exact h.start name hname v hv
  · rw [startPart_eq_null (not_exists.mp hhas)]
    exact nofun

theorem isPlace_iff {own : Value} {words : List String} {start k : Nat} {found : Option Nat}
    (hstart : ∀ m, start = m ∧ 0 < m ↔ (e.startPart name).GivesPlace m)
    (hown : ∀ m, k = m ∧ 0 < m ↔ own.GivesPlace m)
    (hfound : ∀ m, found = some m ↔ ErrorReport.Mentions words e.messageText m) :
    e.IsPlace name own words n ↔ n = ErrorReport.firstPositive [some start, some k, found] := by
  have hsources : List.Forall₂ (fun x P => ∀ a, x = some a ↔ P a)
      ([some start, some k, found].map (·.filter (0 < ·)))
      [fun n => ∃ v, e.StartHas name v ∧ v.GivesPlace n, own.GivesPlace,
        fun n => ErrorReport.Mentions words e.messageText n ∧ 0 < n] := by
    refine .cons (fun m => ?_) (.cons (fun m => ?_) (.cons (fun m => ?_) .nil))
    · rw [Option.filter_eq_some_iff, Option.some.injEq, decide_eq_true_eq, hstart, givesPlace_startPart_iff]
    · rw [Option.filter_eq_some_iff, Option.some.injEq, decide_eq_true_eq, hown]
    · rw [Option.filter_eq_some_iff, hfound, decide_eq_true_eq]
  constructor
  · rintro ⟨first, hfirst, rfl⟩
    rw [hfirst.eq_firstSome hsources]
    rfl
  · rintro rfl
    exact ⟨_, firstGiven_firstSome hsources, rfl⟩

/-- The line and the column are the only numbers that answer to their sources. -/
theorem HasDecimals.exists_locate (h : e.HasDecimals) : ∃ line column, e.locate = .ok (line, column) ∧
    (∀ n, e.IsLine n ↔ n = line) ∧ ∀ n, e.IsColumn n ↔ n = column := by
  obtain ⟨startLine, hstartLine, hgivesStartLine⟩ := (h.startPart (by simp : "line" ∈ _)).exists_position
  obtain ⟨startColumn, hstartColumn, hgivesStartColumn⟩ := (h.startPart (by simp : "column" ∈ _)).exists_position
  obtain ⟨line, hline, hgivesLine⟩ := h.line.exists_position
  obtain ⟨column, hcolumn, hgivesColumn⟩ := h.column.exists_position
  exact ⟨_, _, ErrorReport.locate_of_positions hstartLine hstartColumn hline hcolumn,
    fun _ => isPlace_iff hgivesStartLine hgivesLine fun _ => ErrorReport.lineIn?_eq_some_iff _,
    fun _ => isPlace_iff hgivesStartColumn hgivesColumn fun _ => ErrorReport.columnIn?_eq_some_iff _⟩

theorem IsPlace.pos {own : Value} {words : List String} (h : e.IsPlace name own words n) : 1 ≤ n := by
  obtain ⟨first, hfirst, rfl⟩ := h
  have hplace {v : Value} {m : Nat} (hv : v.GivesPlace m) : 0 < m := by
    cases hv <;> assumption
  cases first with
  | none => exact Nat.le_refl 1
  | some m =>
    obtain ⟨P, hP, hm⟩ := hfirst.exists_mem rfl
    simp only [List.mem_cons, List.not_mem_nil, or_false] at hP
    rcases hP with rfl | rfl | rfl
    · obtain ⟨v, -, hv⟩ := hm
      exact hplace hv
    · exact hplace hm
    · exact hm.2

theorem SameLine.isLine_iff (h : e.SameLine e') : e.IsLine n ↔ e'.IsLine n := by
  simp only [IsLine, IsPlace, h.start, h.line, h.messageText]

theorem SameColumn.isColumn_iff (h : e.SameColumn e') : e.IsColumn n ↔ e'.IsColumn n := by
  simp only [IsColumn, IsPlace, h.start, h.column, h.messageText]

theorem lookup_map {α β : Type} (f : α → β) (ps : List (String × α)) :
    (ps.map fun p => (p.1, f p.2)).lookup name = (ps.lookup name).map f := by
  induction ps with
  | nil => rfl
  | cons p ps ih =>
    rw [List.map_cons, List.lookup_cons, List.lookup_cons, ih]
    split <;> rfl

theorem startHas_iff_locationParts : e.StartHas name v ↔
    ∃ parts start, e.locationParts = some parts ∧ parts.lookup "start" = some (some start) ∧
      start.lookup name = some v := by
  rw [locationParts]
  constructor
  · rintro ⟨location, start, hlocation, hstart, hv⟩
    refine ⟨_, start.parts, by rw [hlocation]; rfl, ?_, hv⟩
    rw [lookup_map, hstart]
    rfl
  · rintro ⟨parts, start, hparts, hstart, hv⟩
    obtain ⟨location, hlocation, rfl⟩ := Option.map_eq_some_iff.mp hparts
    rw [lookup_map] at hstart
    obtain ⟨kept, hkept, hstart⟩ := Option.map_eq_some_iff.mp hstart
    obtain ⟨start, rfl, rfl⟩ := Option.map_eq_some_iff.mp hstart
    exact ⟨location, start, hlocation, hkept, hv⟩

/-- The start of the location has the same parts, however it is kept. -/
theorem SameParts.startPart (h : e.SameParts e') (name : String) : e.startPart name = e'.startPart name := by
  have hhas (v : Value) : e.StartHas name v ↔ e'.StartHas name v := by
    rw [startHas_iff_locationParts, startHas_iff_locationParts, h.location]
  by_cases hstart : ∃ v, e.StartHas name v
  · obtain ⟨v, hv⟩ := hstart
    rw [startPart_eq hv, startPart_eq ((hhas v).mp hv)]
  · have hnone := not_exists.mp hstart
    rw [startPart_eq_null hnone, startPart_eq_null fun v hv => hnone v ((hhas v).mpr hv)]

theorem SameParts.locate (h : e.SameParts e') : e'.locate = e.locate := by
  rw [RaisedError.locate, RaisedError.locate, report, report, h.text, h.message, h.line, h.column,
    h.startPart "line", h.startPart "column"]

/-- An error whose sources know of its place in part: its start has a line and no column, its own column does not
count, and its message has both. -/
def partlyLocated : RaisedError where
  text := "Unexpected token. Line 5, Col: 9."
  column := .bool true
  location := some (.object [("start", some (.record [("line", .text "3"), ("column", .int 0)]))])

end RaisedError

end SchemaDesk

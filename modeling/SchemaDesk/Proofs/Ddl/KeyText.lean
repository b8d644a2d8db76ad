import SchemaDesk.Proofs.Ddl.KeyReading
import SchemaDesk.Sql.ActionText
import SchemaDesk.Sql.RuleText
/-!
The actions in the canonical text of a foreign key: only those that stand behind the names.
-/

namespace SchemaDesk.Ddl

open Sql

variable {d : Dialect} {cs rest : List Char}

/-! ### Stretches without actions -/

/-- No action starts inside of the stretch. -/
def IsQuiet (cs rest : List Char) : Prop :=
  Text.allMatches ActionText.start? 0 (cs ++ rest) = Text.allMatches ActionText.start? 0 rest

theorem IsQuiet.append {ds : List Char} (hcs : IsQuiet cs (ds ++ rest)) (hds : IsQuiet ds rest) :
    IsQuiet (cs ++ ds) rest := by
  rw [IsQuiet, List.append_assoc, hcs, hds]

theorem isQuiet_cons {c : Char} (h : ActionText.start? (c :: (cs ++ rest)) = none) (hcs : IsQuiet cs rest) :
    IsQuiet (c :: cs) rest := by
  rw [IsQuiet, List.cons_append, Text.allMatches, h]
  exact hcs

/-- An action starts with the letter of its first word. -/
theorem start?_of_isLetter {c : Char} (h : Text.isLetter 'o' c = false) (cs : List Char) :
    ActionText.start? (c :: cs) = none := by
  have hon : Text.dropWords? ["on"] (c :: cs) = none := by
    show Text.dropCaseless? ['o', 'n'] (c :: cs) = none
    simp [Text.dropCaseless?, h]
  rw [ActionText.start?, hon]
  rfl

theorem isQuiet_of_isLetter (h : ∀ c ∈ cs, Text.isLetter 'o' c = false) : IsQuiet cs rest := by
  induction cs with
  | nil => rfl
  | cons c cs ih =>
    exact isQuiet_cons (start?_of_isLetter (h c (by simp)) _) (ih fun x hx => h x (by simp [hx]))

/-- No event starts the text. -/
def NoEvent (cs : List Char) : Prop :=
  ∀ c ∈ cs.head?, Text.isLetter 'd' c = false ∧ Text.isLetter 'u' c = false

theorem NoEvent.findSome?_eq_none (h : NoEvent cs) :
    (["delete", "update"].findSome? fun event =>
      (Text.dropWords? [event] cs).map fun rest => (event, rest)) = none := by
  have hdelete : Text.dropWords? ["delete"] cs = none := by
    show Text.dropCaseless? ['d', 'e', 'l', 'e', 't', 'e'] cs = none
    cases cs with
    | nil => rfl
    | cons c cs => simp [Text.dropCaseless?, (h c rfl).1]
  have hupdate : Text.dropWords? ["update"] cs = none := by
    show Text.dropCaseless? ['u', 'p', 'd', 'a', 't', 'e'] cs = none
    cases cs with
    | nil => rfl
    | cons c cs => simp [Text.dropCaseless?, (h c rfl).2]
  simp [hdelete, hupdate]

/-- Blanks and an event must follow the first word. -/
theorem start?_of_noEvent {a b c : Char} (h : Text.isBlank c = true → NoEvent (Text.dropBlanks cs)) :
    ActionText.start? (a :: b :: c :: cs) = none := by
  have hon : Text.dropWords? ["on"] (a :: b :: c :: cs) =
      if Text.isLetter 'o' a then if Text.isLetter 'n' b then some (c :: cs) else none else none := rfl
  rw [ActionText.start?, hon]
  split
  · split
    · by_cases hc : Text.isBlank c = true
      · have hblanks : Text.dropSomeBlanks? (c :: cs) = some (Text.dropBlanks cs) := by
          rw [Text.dropSomeBlanks?, if_pos hc]
        simp only [Option.bind_eq_bind, Option.bind_some, hblanks, (h hc).findSome?_eq_none, Option.bind_none]
      · simp [Text.dropSomeBlanks?, hc]
    · rfl
  · rfl

/-- No action starts inside of a name with a mark behind it. -/
theorem isQuiet_name (hname : ∀ c ∈ cs, Text.isNameChar c) {b : Char} (hb : Text.isLetter 'n' b = false)
    (hrest : Text.isBlank b = true → NoEvent (Text.dropBlanks rest)) : IsQuiet cs (b :: rest) := by
  induction cs with
  | nil => rfl
  | cons c cs ih =>
    refine isQuiet_cons ?_ (ih fun x hx => hname x (by simp [hx]))
    match cs with
    | [] =>
      have hon : Text.dropWords? ["on"] (c :: b :: rest) = none := by
        show Text.dropCaseless? ['o', 'n'] (c :: b :: rest) = none
        simp [Text.dropCaseless?, hb]
      rw [List.nil_append, ActionText.start?, hon]
      rfl
    | [x] => exact start?_of_noEvent hrest
    | x :: y :: cs =>
      refine start?_of_noEvent fun hy => ?_
      rw [Text.isBlank_of_isNameChar (hname y (by simp))] at hy
      cases hy

/-! ### The text of a foreign key -/

/-- The actions in front of which the names stand. -/
def actionTail (xs : List (Event × ReferentialAction)) : List Char :=
  xs.flatMap fun x => ' ' :: (actionOption x).toList

def actionText (x : Event × ReferentialAction) : ActionText := ⟨Text.lower x.1.name, x.2.name⟩

theorem allMatches_actionTail (onDelete onUpdate : Option ReferentialAction) :
    let xs : List (Event × ReferentialAction) :=
      onDelete.toList.map (fun a => (.delete, a)) ++ onUpdate.toList.map fun a => (.update, a)
    Text.allMatches ActionText.start? 0 (actionTail xs) = xs.map actionText := by
  rcases onDelete with - | - | - | - | - <;> rcases onUpdate with - | - | - | - | - <;> decide

namespace AddKey

theorem toList_render (d : Dialect) (k : AddKey) : (k.clause.render d).toList =
    "FOREIGN KEY (".toList ++ (k.column.toList ++ ')' :: (" REFERENCES ".toList ++ (k.target.toList ++
      ' ' :: ("(".toList ++ (k.targetColumn.toList ++ ')' :: actionTail k.actions))))) := by
  have hbehind (s : String) : Comment.behind s [] = s := rfl
  have hoptions (xs : List (Event × ReferentialAction)) :
      (wordsBehind (xs.map actionOption)).toList = actionTail xs := by
    induction xs with
    | nil => rfl
    | cons x xs ih =>
      rw [actionTail, List.flatMap_cons, ← actionTail, ← ih]
      simp [wordsBehind]
  have hnone : wordsBehind [] = "" := rfl
  have hident (s : String) : ({ text := s } : Ident).render d = s := rfl
  have hlist (s : String) : columnList [s] = " (" ++ s ++ ")" := by
    refine String.toList_inj.mp ?_
    simp [columnList, listInParens, commaList]
  have hsingle (s : String) : ".".intercalate [s] = s := by simp
  simp only [ForeignKeyClause.render, clause, reference, tableNamed, hbehind, Reference.render, Reference.target,
    TableName.render, List.map_cons, List.map_nil, List.nil_append, Expr.renders, Expr.render, hident, hsingle, hlist,
    ForeignKeyClause.lastAction, List.reverse_nil, List.find?_nil, Option.toList_none, hnone, String.toList_append,
    hoptions]
  simp

/-- The text of a foreign key has its own actions and no others. -/
theorem actionText_all {k : AddKey} (hk : k.IsValid d) :
    ActionText.all (k.clause.render d) = k.actions.map actionText := by
  have hclosing (rest : List Char) : IsQuiet [')'] rest := isQuiet_of_isLetter (by decide)
  have hname {s : String} (hs : s ∈ [k.table, k.column, k.target, k.targetColumn]) (rest : List Char) :
      IsQuiet (s.toList ++ [')']) rest :=
    IsQuiet.append (isQuiet_name (hk s hs).forall_isNameChar (by decide)
      fun h => (Bool.false_ne_true h).elim) (hclosing rest)
  have htarget (rest : List Char) : IsQuiet (k.target.toList ++ [' ', '(']) rest := by
    have hblanks : Text.dropBlanks ('(' :: rest) = '(' :: rest := rfl
    have hquiet : IsQuiet k.target.toList (' ' :: '(' :: rest) := by
      refine isQuiet_name (hk k.target (by simp)).forall_isNameChar (by decide) fun _ => ?_
      rw [hblanks, NoEvent, List.head?_cons]
      decide
    exact IsQuiet.append hquiet (isQuiet_of_isLetter (by decide))
  have hforeign (rest : List Char) : IsQuiet "FOREIGN KEY (".toList rest := by
    have hsecond : ActionText.start? ("OREIGN KEY (".toList ++ rest) = none :=
      start?_of_noEvent fun h => (Bool.false_ne_true h).elim
    exact isQuiet_cons (start?_of_isLetter (by decide) _)
      (isQuiet_cons hsecond (isQuiet_of_isLetter (by decide)))
  have hreferences (rest : List Char) : IsQuiet " REFERENCES ".toList rest :=
    isQuiet_of_isLetter (by decide)
  have hsplit (cs rest : List Char) : cs ++ ')' :: rest = (cs ++ [')']) ++ rest := by simp
  have hsplit' (cs rest : List Char) : cs ++ ' ' :: ("(".toList ++ rest) = (cs ++ [' ', '(']) ++ rest := by simp
  rw [ActionText.all, toList_render, hforeign, hsplit, hname (by simp), hreferences, hsplit', htarget, hsplit,
    hname (by simp)]
  exact allMatches_actionTail k.onDelete k.onUpdate

end AddKey

end SchemaDesk.Ddl

import SchemaDesk.Proofs.Sql.Reading.Follow
/-!
Items between commas, and what stands in parentheses.
-/

namespace SchemaDesk.Sql

namespace TokenShape

def comma : TokenShape := ⟨.mark ",", ",", []⟩

def opening : TokenShape := ⟨.mark "(", "(", []⟩

def closing : TokenShape := ⟨.mark ")", ")", []⟩

end TokenShape

namespace Token

theorem isMark_of_shape {t : Token} {m s : String} (ht : t.shape = ⟨.mark m, s, []⟩) :
    t.isMark m = true := by
  rw [isMark_eq, (is_iff_shape.mpr ht).kind, beq_self_eq_true]

theorem follows_comma {t : Token} (ht : t.shape = .comma) : t.Follows :=
  ⟨(.mark ",", ","), by decide, is_iff_shape.mpr ht⟩

theorem follows_closing {t : Token} (ht : t.shape = .closing) : t.Follows :=
  ⟨(.mark ")", ")"), by decide, is_iff_shape.mpr ht⟩

end Token

namespace Reader

open Cursor

variable {α β : Type} {r : Reader (Option α)} {l t : Token} {ts us : List Token}

/-- An item between commas and parentheses ends here. -/
def EndsItem (ts : List Token) : Prop := ∀ t ∈ ts.head?, t.shape = .comma ∨ t.shape = .closing

/-- The last item ends here. -/
def EndsItems (ts : List Token) : Prop := ∀ t ∈ ts.head?, t.shape = .closing

theorem EndsItem.followedBy (h : EndsItem ts) : FollowedBy ts :=
  fun t ht => (h t ht).elim Token.follows_comma Token.follows_closing

theorem EndsItems.endsItem (h : EndsItems ts) : EndsItem ts := fun t ht => Or.inr (h t ht)

theorem endsItems_cons {t : Token} {ts : List Token} (ht : t.shape = .closing) : EndsItems (t :: ts) := by
  simpa [EndsItems] using ht

theorem run_moreItems_end {atComma : α → Reader α} (h : ∀ t ∈ ts.head?, t.isMark "," = false)
    (item : Option α) (fuel : Nat) :
    (moreItems r atComma item fuel).run (behind l ts) = .ok (item.toList, behind l ts) := by
  cases fuel with
  | zero => rfl
  | succ fuel =>
    rw [moreItems, mark, run_bind (run_skipIf_of_none h)]
    rfl

/-- The reader takes the item of `y` in front of a comma or the end of the list. -/
def TakesEach (r : Reader (Option α)) (shapes : β → List TokenShape) (item : β → α) (y : β) : Prop :=
  ∀ us ts, us.map Token.shape = shapes y → EndsItem ts → Takes r us ts (some (item y))

theorem endsItem_items {shapes : β → List TokenShape} {ys : List β}
    (hus : us.map Token.shape = ys.flatMap fun y => .comma :: shapes y) (hts : EndsItems ts) :
    EndsItem (us ++ ts) := by
  obtain - | ⟨u, us⟩ := us
  · exact hts.endsItem
  · obtain - | ⟨y, ys⟩ := ys
    · simp at hus
    · simp only [List.map_cons, List.flatMap_cons, List.cons_append, List.cons.injEq] at hus
      simp [EndsItem, hus.1]

theorem takes_moreItems {atComma : α → Reader α} {shapes : β → List TokenShape} {item : β → α}
    (hcomma : ∀ a (l : Token) ts, l.comments = [] →
      (atComma a).run (behind l ts) = .ok (a, behind l ts))
    (a : α) (ys : List β) (hr : ∀ y ∈ ys, TakesEach r shapes item y) (us : List Token) (fuel : Nat)
    (hus : us.map Token.shape = ys.flatMap fun y => .comma :: shapes y) (hfuel : us.length ≤ fuel)
    (hts : EndsItems ts) :
    Takes (moreItems r atComma (some a) fuel) us ts (a :: ys.map item) := by
  induction ys generalizing a us fuel with
  | nil =>
    obtain rfl : us = [] := by simpa using hus
    refine .of_run fun l _ => run_moreItems_end (fun t ht => ?_) (some a) fuel
    have hclosing : t.Is (.mark ")") ")" := Token.is_iff_shape.mpr (hts t ht)
    rw [Token.isMark_eq, hclosing.kind]
    decide
  | cons y ys ih =>
    rw [List.flatMap_cons, List.cons_append] at hus
    obtain ⟨c, us, rfl, hc, hus⟩ := List.map_eq_cons_iff.mp hus
    obtain ⟨vs, ws, rfl, hvs, hws⟩ := List.map_eq_append_iff.mp hus
    have hcis : c.Is (.mark ",") "," := Token.is_iff_shape.mpr hc
    obtain - | fuel := fuel
    · simp at hfuel
    have hitem := hr y (by simp) vs (ws ++ ts) hvs (endsItem_items hws hts)
    have hrest := ih (item y) (fun z hz => hr z (by simp [hz])) ws fuel hws
      (by simp only [List.length_cons, List.length_append] at hfuel; omega)
    have hboth := hitem.bind (f := fun b => (a :: ·) <$> moreItems r atComma b fuel)
      (hrest.map (f := (a :: ·)))
    intro l hl
    obtain ⟨l', hl', hrun⟩ := hboth c hcis.comments
    refine ⟨l', hl', ?_⟩
    have hmark : (mark ",").run (behind l (c :: (vs ++ ws ++ ts))) =
        .ok (true, behind c (vs ++ ws ++ ts)) := by
      rw [mark, run_skipIf_cons, if_pos (Token.isMark_of_shape hc)]
    rw [List.cons_append, moreItems, run_bind hmark]
    simp only [if_true, Option.mapM_some]
    rw [map_eq_pure_bind, bind_assoc, run_bind (hcomma a c _ hcis.comments), pure_bind]
    simp only [Option.toList_some, List.singleton_append, bind_pure_comp]
    exact hrun

/-- All items between commas are taken, whatever the reader does with the comments of a comma. -/
theorem takes_items {atComma : α → Reader α} {shapes : β → List TokenShape} {item : β → α}
    (hcomma : ∀ a (l : Token) ts, l.comments = [] →
      (atComma a).run (behind l ts) = .ok (a, behind l ts))
    (y : β) (ys : List β) (hr : ∀ z ∈ y :: ys, TakesEach r shapes item z)
    (hus : us.map Token.shape = shapes y ++ ys.flatMap fun z => .comma :: shapes z)
    (hts : EndsItems ts) :
    Takes (do moreItems r atComma (← r) (← remaining)) us ts ((y :: ys).map item) := by
  obtain ⟨vs, ws, rfl, hvs, hws⟩ := List.map_eq_append_iff.mp hus
  refine (hr y (by simp) vs (ws ++ ts) hvs (endsItem_items hws hts)).bind ?_
  intro l hl
  rw [run_bind run_remaining]
  exact takes_moreItems hcomma (item y) ys (fun z hz => hr z (by simp [hz])) ws _ hws
    (by simp) hts l hl

theorem takes_values {r : Reader (Option Expr)} {shapes : β → List TokenShape} {item : β → Expr}
    (y : β) (ys : List β) (hr : ∀ z ∈ y :: ys, TakesEach r shapes item z)
    (hus : us.map Token.shape = shapes y ++ ys.flatMap fun z => .comma :: shapes z)
    (hts : EndsItems ts) : Takes (values r) us ts ((y :: ys).map item) :=
  takes_items (fun e _ _ hl => run_noted hl e) y ys hr hus hts

/-! ### Items that are not taken as a whole -/

/-- The reader stops at a token of some kind in or in front of the item of `y`. -/
def StopsEach (r : Reader (Option α)) (shapes : β → List TokenShape) (p : Token → Prop) (y : β) : Prop :=
  ∀ us ts (l : Token), us.map Token.shape = shapes y → EndsItem ts → l.comments = [] →
    ∃ a l' m vs, r.run (behind l (us ++ ts)) = .ok (a, behind l' (m :: vs)) ∧ p m ∧
      vs.length < (us ++ ts).length

section Stops

variable {atComma : α → Reader α} {shapes : β → List TokenShape} {item : β → α} {p : Token → Prop}
  (hcomma : ∀ a (l : Token) ts, l.comments = [] → (atComma a).run (behind l ts) = .ok (a, behind l ts))
  (hp : ∀ m, p m → m.isMark "," = false)

include hcomma hp

/-- The first item that is not taken as a whole ends the list. -/
theorem stops_moreItems (a : Option α) (ys : List β)
    (hr : ∀ y ∈ ys, TakesEach r shapes item y ∨ StopsEach r shapes p y)
    (hstop : ∃ y ∈ ys, StopsEach r shapes p y) (us : List Token) (fuel : Nat)
    (hus : us.map Token.shape = ys.flatMap fun y => .comma :: shapes y) (hfuel : us.length ≤ fuel)
    (hts : EndsItems ts) :
    ∃ as l' m vs, (moreItems r atComma a fuel).run (behind l (us ++ ts)) =
      .ok (as, behind l' (m :: vs)) ∧ p m ∧ vs.length < (us ++ ts).length := by
  induction ys generalizing a l us fuel with
  | nil => simp at hstop
  | cons y ys ih =>
    rw [List.flatMap_cons, List.cons_append] at hus
    obtain ⟨c, us, rfl, hc, hus⟩ := List.map_eq_cons_iff.mp hus
    obtain ⟨vs, ws, rfl, hvs, hws⟩ := List.map_eq_append_iff.mp hus
    have hcis : c.Is (.mark ",") "," := Token.is_iff_shape.mpr hc
    obtain - | fuel := fuel
    · simp at hfuel
    have hmark : (mark ",").run (behind l (c :: (vs ++ ws ++ ts))) =
        .ok (true, behind c (vs ++ ws ++ ts)) := by
      rw [mark, run_skipIf_cons, if_pos (Token.isMark_of_shape hc)]
    have hbefore : (a.mapM atComma).run (behind c (vs ++ ws ++ ts)) =
        .ok (a, behind c (vs ++ ws ++ ts)) := by
      cases a with
      | none => rfl
      | some a =>
        rw [Option.mapM_some, StateT.run_map, hcomma a c _ hcis.comments]
        rfl
    have hends := endsItem_items hws hts
    have hsuffices {b : Option α} {m : Token} {ts' : List Token}
        (hitem : r.run (behind c (vs ++ (ws ++ ts))) = .ok (b, behind m ts'))
        (hrest : ∃ as l' m' vs', (moreItems r atComma b fuel).run (behind m ts') =
          .ok (as, behind l' (m' :: vs')) ∧ p m' ∧ vs'.length < (vs ++ (ws ++ ts)).length) :
        ∃ as l' m' vs', (moreItems r atComma a (fuel + 1)).run (behind l (c :: (vs ++ ws) ++ ts)) =
          .ok (as, behind l' (m' :: vs')) ∧ p m' ∧ vs'.length < (c :: (vs ++ ws) ++ ts).length := by
      obtain ⟨as, l', m', vs', hrun, hm', hlength⟩ := hrest
      refine ⟨a.toList ++ as, l', m', vs', ?_, hm', ?_⟩
      · rw [List.cons_append, moreItems, run_bind hmark]
        simp only [if_true]
        rw [run_bind hbefore, List.append_assoc, run_bind hitem, run_bind hrun]
        rfl
      · simp only [List.cons_append, List.length_cons, List.length_append] at hlength ⊢
        omega
    have hstops (h : StopsEach r shapes p y) : ∃ as l' m' vs',
        (moreItems r atComma a (fuel + 1)).run (behind l (c :: (vs ++ ws) ++ ts)) =
          .ok (as, behind l' (m' :: vs')) ∧ p m' ∧ vs'.length < (c :: (vs ++ ws) ++ ts).length := by
      obtain ⟨b, l', m, vs', hitem, hm, hlength⟩ := h vs (ws ++ ts) c hvs hends hcis.comments
      refine hsuffices hitem ⟨b.toList, l', m, vs', run_moreItems_end ?_ b fuel, hm, hlength⟩
      intro t ht
      obtain rfl : m = t := by simpa using ht
      exact hp m hm
    rcases hr y (by simp) with htakes | hstopped
    · by_cases hy : StopsEach r shapes p y
      · exact hstops hy
      · obtain ⟨m, hm, hitem⟩ := htakes vs (ws ++ ts) hvs hends c hcis.comments
        have hrest : ∃ z ∈ ys, StopsEach r shapes p z := by
          obtain ⟨z, hz, hz'⟩ := hstop
          rcases List.mem_cons.mp hz with rfl | hz
          · exact (hy hz').elim
          · exact ⟨z, hz, hz'⟩
        obtain ⟨as, l', m', vs', hrun, hm', hlength⟩ := ih (l := m) (some (item y))
          (fun z hz => hr z (by simp [hz])) hrest ws fuel hws
          (by simp only [List.length_cons, List.length_append] at hfuel; omega)
        refine hsuffices hitem ⟨as, l', m', vs', hrun, hm', ?_⟩
        simp only [List.length_append] at hlength ⊢
        omega
    · exact hstops hstopped

/-- The list ends in or in front of the first item that is not taken as a whole. -/
theorem stops_items (hl : l.comments = []) (y : β) (ys : List β)
    (hr : ∀ z ∈ y :: ys, TakesEach r shapes item z ∨ StopsEach r shapes p z)
    (hstop : ∃ z ∈ y :: ys, StopsEach r shapes p z)
    (hus : us.map Token.shape = shapes y ++ ys.flatMap fun z => .comma :: shapes z)
    (hts : EndsItems ts) :
    ∃ as l' m vs, (do moreItems r atComma (← r) (← remaining) : Reader (List α)).run
      (behind l (us ++ ts)) = .ok (as, behind l' (m :: vs)) ∧ p m ∧ vs.length < (us ++ ts).length := by
  obtain ⟨vs, ws, rfl, hvs, hws⟩ := List.map_eq_append_iff.mp hus
  have hends := endsItem_items hws hts
  rw [List.append_assoc]
  by_cases hy : StopsEach r shapes p y
  · obtain ⟨b, l', m, vs', hitem, hm, hlength⟩ := hy vs (ws ++ ts) l hvs hends hl
    refine ⟨b.toList, l', m, vs', ?_, hm, hlength⟩
    rw [run_bind hitem, run_bind run_remaining]
    refine run_moreItems_end (fun t ht => ?_) b _
    obtain rfl : m = t := by simpa using ht
    exact hp m hm
  · obtain ⟨m, hm, hitem⟩ := (hr y (by simp)).resolve_right hy vs (ws ++ ts) hvs hends l hl
    have hrest : ∃ z ∈ ys, StopsEach r shapes p z := by
      obtain ⟨z, hz, hz'⟩ := hstop
      rcases List.mem_cons.mp hz with rfl | hz
      · exact (hy hz').elim
      · exact ⟨z, hz, hz'⟩
    obtain ⟨as, l', m', vs', hrun, hm', hlength⟩ := stops_moreItems (l := m) hcomma hp
      (some (item y)) ys (fun z hz => hr z (by simp [hz])) hrest ws (ws ++ ts).length hws (by simp) hts
    refine ⟨as, l', m', vs', ?_, hm', ?_⟩
    · rw [run_bind hitem, run_bind run_remaining]
      exact hrun
    · simp only [List.length_append] at hlength ⊢
      omega

end Stops

/-- What goes on behind all items. -/
theorem items_bind {atComma : α → Reader α} (f : List α → Reader β) :
    (do let a ← r
        let fuel ← remaining
        let as ← moreItems r atComma a fuel
        f as) = (do moreItems r atComma (← r) (← remaining)) >>= f := by
  simp only [bind_assoc]

/-- What a reader takes between parentheses. -/
theorem takes_wrapped {s : Reader α} {a : α} {o c : Token} (ho : o.shape = .opening)
    (hc : c.shape = .closing) (hs : Takes s us (c :: ts) a) :
    Takes (wrapped s) (o :: (us ++ [c])) ts a := by
  have hois : o.Is (.mark "(") "(" := Token.is_iff_shape.mpr ho
  have hcis : c.Is (.mark ")") ")" := Token.is_iff_shape.mpr hc
  intro l _
  obtain ⟨l', hl', hrun⟩ := hs o hois.comments
  refine ⟨c, hcis.comments, ?_⟩
  rw [List.cons_append, wrapped, run_bind (run_expectMark (Token.isMark_of_shape ho)),
    List.append_assoc, List.singleton_append, run_bind hrun,
    run_bind (run_expectMark (Token.isMark_of_shape hc))]
  rfl

end Reader

end SchemaDesk.Sql

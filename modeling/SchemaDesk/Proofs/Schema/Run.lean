import SchemaDesk.Proofs.Schema.Operation
/-!
Runs of any kind of step. What each step keeps holds of all states that a run reaches, and where a step keeps it
exactly on some condition, all states have it exactly if each step meets its condition.
-/

namespace SchemaDesk

variable {σ α : Type} {next : σ → α → σ} {I : σ → Prop} {P Q : σ → α → Prop}

/-- The states that a run reaches, from the first one on. -/
def reached (next : σ → α → σ) (s : σ) : List α → List σ
  | [] => [s]
  | a :: as => s :: reached next (next s a) as

/-- A condition on every step of a run, at the state in which the step is taken. -/
def EachStep (next : σ → α → σ) (P : σ → α → Prop) (s : σ) : List α → Prop
  | [] => True
  | a :: as => P s a ∧ EachStep next P (next s a) as

theorem first_mem_reached (s : σ) (as : List α) : s ∈ reached next s as := by
  cases as <;> simp [reached]

theorem eachStep_of_forall {p : α → Prop} {s : σ} {as : List α} (h : ∀ a ∈ as, p a) :
    EachStep next (fun _ => p) s as := by
  induction as generalizing s with
  | nil => trivial
  | cons a as ih =>
    rw [List.forall_mem_cons] at h
    exact ⟨h.1, ih h.2⟩

theorem forall_reached (hstep : ∀ s a, I s → P s a → I (next s a)) {s : σ} {as : List α} (hs : I s)
    (h : EachStep next P s as) : ∀ t ∈ reached next s as, I t := by
  induction as generalizing s with
  | nil => simpa [reached] using hs
  | cons a as ih =>
    rw [reached, List.forall_mem_cons]
    exact ⟨hs, ih (hstep s a hs h.1) h.2⟩

theorem forall_reached_iff (hstep : ∀ s a, I s → P s a → (I (next s a) ↔ Q s a)) {s : σ} {as : List α} (hs : I s)
    (h : EachStep next P s as) : (∀ t ∈ reached next s as, I t) ↔ EachStep next Q s as := by
  induction as generalizing s with
  | nil => simpa [reached, EachStep] using hs
  | cons a as ih =>
    rw [reached, List.forall_mem_cons, and_iff_right hs, EachStep, ← hstep s a hs h.1]
    constructor
    · intro hrest
      have hnext : I (next s a) := hrest _ (first_mem_reached _ _)
      exact ⟨hnext, (ih hnext h.2).mp hrest⟩
    · rintro ⟨hnext, hrest⟩
      exact (ih hnext h.2).mpr hrest

instance decidableEachStep [∀ s a, Decidable (P s a)] : ∀ (s : σ) (as : List α), Decidable (EachStep next P s as)
  | _, [] => .isTrue trivial
  | s, a :: as =>
    have := decidableEachStep (next s a) as
    inferInstanceAs (Decidable (P s a ∧ EachStep next P (next s a) as))

theorem Schema.along_eq_reached (s : Schema) (os : List Operation) : s.along os = reached Schema.after s os := by
  induction os generalizing s with
  | nil => rfl
  | cons o os ih => rw [along, reached, ih]

end SchemaDesk

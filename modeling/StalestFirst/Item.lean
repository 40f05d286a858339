namespace StalestFirst

/-! ## Items and their rank -/

/-- A box as the pool sees it: its identifier and its score. The lower the score,
the staler the box. -/
structure Item where
  id : String
  score : Int64
  deriving DecidableEq

namespace Item

/-- Whether two items name the same box, whatever their scores. -/
def sameBox (left right : Item) : Bool := left.id == right.id

/-- One item ranks before another when its score is lower, or when the scores are
equal and its identifier is smaller. -/
def Before (first second : Item) : Prop :=
  first.score < second.score ∨
    (first.score = second.score ∧ first.id < second.id)

instance (first second : Item) : Decidable (first.Before second) :=
  inferInstanceAs (Decidable (_ ∨ _))

theorem Before.trans {first second third : Item}
    (earlier : first.Before second) (later : second.Before third) :
    first.Before third := by
  unfold Before at *
  rw [Int64.lt_iff_toInt_lt, ← Int64.toInt_inj] at *
  rcases earlier with lower | ⟨same, smaller⟩
  · rcases later with lower' | ⟨same', _⟩
    · exact Or.inl (by omega)
    · exact Or.inl (by omega)
  · rcases later with lower' | ⟨same', smaller'⟩
    · exact Or.inl (by omega)
    · exact Or.inr ⟨by omega, String.lt_trans smaller smaller'⟩

theorem Before.irrefl (item : Item) : ¬ item.Before item := by
  rintro (lower | ⟨_, smaller⟩)
  · rw [Int64.lt_iff_toInt_lt] at lower
    omega
  · exact String.lt_irrefl _ smaller

/-- Two items of different boxes are ranked one way or the other. -/
theorem Before.of_not {first second : Item}
    (different : first.id ≠ second.id)
    (notBefore : ¬ first.Before second) : second.Before first := by
  unfold Before at *
  simp only [Int64.lt_iff_toInt_lt, ← Int64.toInt_inj] at *
  by_cases lower : second.score.toInt < first.score.toInt
  · exact Or.inl lower
  · by_cases same : first.score.toInt = second.score.toInt
    · refine Or.inr ⟨same.symm, ?_⟩
      have notSmaller : ¬ first.id < second.id := fun smaller =>
        notBefore (Or.inr ⟨same, smaller⟩)
      exact Std.lt_of_le_of_ne (String.not_lt.1 notSmaller)
        (Ne.symm different)
    · exact absurd (Or.inl (by omega)) notBefore

end Item

end StalestFirst

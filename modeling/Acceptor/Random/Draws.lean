/-! # Drawing

What is drawn comes from a source that hands out one value at a time. All that a source promises is
that what it draws below a bound is below it; whether values are likely or ever repeat is its own
affair. Sources are plain values, and drawing returns the source that goes on from there.
-/

namespace Acceptor

/-- Values that can be drawn from. -/
class DrawSource (σ : Type) where
  /-- A number below a bound. -/
  below : Nat → σ → Nat × σ
  /-- A fraction of one. -/
  unit : σ → Float × σ
  below_lt {bound : Nat} (positive : 0 < bound) (source : σ) : (below bound source).1 < bound

namespace DrawSource

variable {σ α : Type}

/-- A number between `low` and `high`, both included. -/
def between [DrawSource σ] (low high : Nat) (source : σ) : Nat × σ :=
  let offset := below (high - low + 1) source
  (low + offset.1, offset.2)

/-- Draws `count` values one after another. -/
def many (draw : σ → α × σ) : Nat → σ → List α × σ
  | 0, source => ([], source)
  | count + 1, source =>
    let drawn := draw source
    let others := many draw count drawn.2
    (drawn.1 :: others.1, others.2)

theorem le_between [DrawSource σ] (low high : Nat) (source : σ) :
    low ≤ (between low high source).1 :=
  Nat.le_add_right ..

theorem between_le [DrawSource σ] {low high : Nat} (ordered : low ≤ high) (source : σ) :
    (between low high source).1 ≤ high := by
  have small := below_lt (show 0 < high - low + 1 from Nat.succ_pos _) source
  rw [between]
  omega

theorem length_many (draw : σ → α × σ) (count : Nat) (source : σ) :
    (many draw count source).1.length = count := by
  induction count generalizing source with
  | zero => rfl
  | succ count ih => rw [many, List.length_cons, ih]

/-- What holds of each value that can be drawn holds of all that are drawn. -/
theorem forall_mem_many {holds : α → Prop} {draw : σ → α × σ}
    (each : ∀ source, holds (draw source).1) (count : Nat) (source : σ) :
    ∀ value ∈ (many draw count source).1, holds value := by
  induction count generalizing source with
  | zero =>
    intro value drawn
    cases drawn
  | succ count ih => exact List.forall_mem_cons.mpr ⟨each source, ih _⟩

end DrawSource

end Acceptor

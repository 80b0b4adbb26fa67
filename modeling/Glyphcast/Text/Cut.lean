/-!
# Cutting at a separator

Header lines, frame headers and resolutions are all "this, a separator, that", where only the
first separator counts. `cut?` is that operation on any list; it loses the separator it cut at
and nothing else.
-/

namespace Glyphcast.Text

variable {α : Type}

/-- What stands before and after the first element that satisfies `separates`. -/
def cut? (separates : α → Bool) (xs : List α) : Option (List α × List α) :=
  match xs.dropWhile (!separates ·) with
  | [] => none
  | _ :: after => some (xs.takeWhile (!separates ·), after)

/-- The two parts and the separator are all there was. -/
theorem length_of_cut? {separates : α → Bool} {xs before after : List α}
    (h : cut? separates xs = some (before, after)) :
    before.length + 1 + after.length = xs.length := by
  have split := congrArg List.length (xs.takeWhile_append_dropWhile (p := (!separates ·)))
  unfold cut? at h
  split at h
  · nomatch h
  · next tail heq =>
    simp only [Option.some.injEq, Prod.mk.injEq] at h
    obtain ⟨rfl, rfl⟩ := h
    simp only [heq, List.length_append, List.length_cons] at split
    omega

theorem cut?_append {separates : α → Bool} {before after : List α} {separator : α}
    (free : ∀ x ∈ before, separates x = false) (found : separates separator = true) :
    cut? separates (before ++ separator :: after) = some (before, after) := by
  have pass : ∀ x ∈ before, (!separates x) = true := by
    intro x mem
    rw [free x mem]
    rfl
  have stop : ¬(!separates separator) = true := by
    rw [found]
    decide
  rw [cut?, List.dropWhile_append_of_pos pass, List.takeWhile_append_of_pos pass,
    List.dropWhile_cons_of_neg (by exact stop), List.takeWhile_cons_of_neg (by exact stop),
    List.append_nil]

end Glyphcast.Text

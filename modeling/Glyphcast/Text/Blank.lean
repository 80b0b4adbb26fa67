/-!
# White space

The `White_Space` property of the Unicode standard, and trimming by it. Lean's own
`Char.isWhitespace` knows five ASCII characters; a number may be padded by any of the twenty-five.
-/

namespace Glyphcast.Text

/-- The `White_Space` property. -/
def isBlank (c : Char) : Bool :=
  let n := c.toNat
  (9 ≤ n && n ≤ 13) || n == 0x20 || n == 0x85 || n == 0xa0 || n == 0x1680 ||
    (0x2000 ≤ n && n ≤ 0x200a) || n == 0x2028 || n == 0x2029 || n == 0x202f || n == 0x205f ||
    n == 0x3000

/-- A text without the white space at its two ends. -/
def trim (cs : List Char) : List Char :=
  ((cs.dropWhile isBlank).reverse.dropWhile isBlank).reverse

theorem trim_of_not_blank {cs : List Char} (h : ∀ c ∈ cs, isBlank c = false) : trim cs = cs := by
  have kept (ds : List Char) (h : ∀ c ∈ ds, isBlank c = false) : ds.dropWhile isBlank = ds := by
    cases ds with
    | nil => rfl
    | cons d ds =>
      refine List.dropWhile_cons_of_neg ?_
      rw [h d List.mem_cons_self]
      decide
  rw [trim, kept cs h, kept _ fun c mem ↦ h c (List.mem_reverse.1 mem), List.reverse_reverse]

end Glyphcast.Text

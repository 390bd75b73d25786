/-!
# White space

`isBlank` is the White_Space property of Unicode, a closed list of twenty-five characters, and
`trim` takes blank characters from both ends of a text.
-/

namespace Lookout.Text

def isBlank (c : Char) : Bool :=
  let n := c.toNat
  (0x09 ≤ n && n ≤ 0x0D) || n == 0x20 || n == 0x85 || n == 0xA0 || n == 0x1680 ||
    (0x2000 ≤ n && n ≤ 0x200A) || n == 0x2028 || n == 0x2029 || n == 0x202F || n == 0x205F ||
    n == 0x3000

/-- The text without blank characters at either end. -/
def trim (text : List Char) : List Char :=
  ((text.dropWhile isBlank).reverse.dropWhile isBlank).reverse

theorem not_isBlank_head_trim {text : List Char} {c : Char} (h : c ∈ (trim text).head?) :
    isBlank c = false := by
  -- What is left is a start of the text without the blanks in front.
  have hstart : trim text <+: text.dropWhile isBlank := by
    rw [trim, ← List.reverse_suffix, List.reverse_reverse]
    exact List.dropWhile_suffix isBlank
  obtain ⟨rest, hrest⟩ := hstart
  have hfirst : c ∈ (text.dropWhile isBlank).head? := by
    rw [← hrest, List.head?_append, h]
    rfl
  have := List.head?_dropWhile_not isBlank text
  simp_all

theorem not_isBlank_getLast_trim {text : List Char} {c : Char}
    (h : c ∈ (trim text).getLast?) : isBlank c = false := by
  simp only [trim, List.getLast?_reverse] at h
  have := List.head?_dropWhile_not isBlank (text.dropWhile isBlank).reverse
  simp_all

end Lookout.Text

import ContentDepot.Text.CodeSet

/-!
# Lines

A line ends at a line break: one of the vertical controls, a carriage return
with or without a line feed after it, one of three information separators, the
next-line control, or the line or paragraph separator.

* `breakCount`: how many lines end in a text.
* `breakCount_of_plain`: none in a text without line breaks.
-/

namespace ContentDepot.Text

/-- The code points of line breaks. -/
def lineBreaks : CodeSet :=
  [(0x0a, 0x0d), (0x1c, 0x1e), (0x85, 0x85), (0x2028, 0x2029)]

/-- Whether a line ends at the character. -/
def isLineBreak (c : Char) : Bool := lineBreaks.has c.toNat

/-- How many lines end in a text; a line feed after a carriage return ends none of its own. -/
def breakCount : List Char → Nat
  | [] => 0
  | '\r' :: '\n' :: rest => breakCount rest + 1
  | c :: rest => breakCount rest + if isLineBreak c then 1 else 0

theorem breakCount_of_plain {cs : List Char} (h : ∀ c ∈ cs, isLineBreak c = false) :
    breakCount cs = 0 := by
  fun_induction breakCount cs with
  | case1 => rfl
  | case2 rest ih => exact absurd (h '\r' (by simp)) (by decide)
  | case3 c rest _ ih => simp [ih fun d hd => h d (by simp [hd]), h c (by simp)]

end ContentDepot.Text

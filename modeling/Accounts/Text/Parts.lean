/-!
# Parts of a text

A text is looked through for another one, and cut at a separator.
-/

namespace Accounts.Text

/-- Some characters stand in a row within others. -/
def occurs (part : List Char) : List Char → Bool
  | [] => part.isEmpty
  | c :: cs => part.isPrefixOf (c :: cs) || occurs part cs

/-- A text is part of another. -/
def occursIn (part whole : String) : Bool := occurs part.toList whole.toList

theorem occurs_iff {part cs : List Char} : occurs part cs = true ↔ part <:+: cs := by
  induction cs with
  | nil => simp [occurs]
  | cons c cs ih => simp [occurs, ih, List.infix_cons_iff]

theorem cut_append {sep : Char} {front : List Char} (back : List Char) (h : sep ∉ front) :
    (front ++ sep :: back).takeWhile (· ≠ sep) = front ∧
      (front ++ sep :: back).dropWhile (· ≠ sep) = sep :: back := by
  have hne : ∀ c ∈ front, decide (c ≠ sep) = true := fun c hc =>
    decide_eq_true fun heq => h (heq ▸ hc)
  rw [List.takeWhile_append_of_pos hne, List.dropWhile_append_of_pos hne]
  simp

end Accounts.Text

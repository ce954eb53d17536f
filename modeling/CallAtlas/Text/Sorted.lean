/-!
# Sorted texts

Texts in the order of their code points.
-/

namespace CallAtlas.Text

def textLE (a b : String) : Bool := decide (a ≤ b)

/-- Texts in order, each of them once. -/
def sortedTexts (texts : List String) : List String :=
  texts.eraseDups.mergeSort textLE

@[simp]
theorem mem_sortedTexts {a : String} {texts : List String} : a ∈ sortedTexts texts ↔ a ∈ texts := by
  simp [sortedTexts, List.mem_eraseDups]

end CallAtlas.Text

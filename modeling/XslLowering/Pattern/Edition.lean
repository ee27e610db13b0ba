import XslLowering.Text.Age
import XslLowering.Text.Category

/-!
# The characters that patterns know

Patterns keep to one edition of the character database, so that a pattern goes on to match what it
has matched before. Characters that were introduced later are unassigned for a pattern.
-/

namespace XslLowering.Pattern

open Text

def patternEdition : Edition := ⟨16, 0⟩

/-- Characters that were introduced later. -/
def laterChars : CharSet := introducedIn fun edition => !edition.atMost patternEdition

/-- Small letters that have become letters without case later. -/
def formerSmallLetters : CharSet := .ofText "295"

/-- What patterns know of a set. -/
def known (s : CharSet) : CharSet := s.difference laterChars

/-- The characters whose category satisfies `p`. -/
def charsOfCategory (p : Category → Bool) : CharSet :=
  .unions [(known (categorySet p)).difference formerSmallLetters,
    if p ⟨'C', 'n'⟩ then laterChars else .empty,
    if p ⟨'L', 'l'⟩ then formerSmallLetters else .empty]

/-- Whether a category has these letters, or is of the class with this letter. -/
def isCategory (letters : String) (k : Category) : Bool :=
  match letters.toList with
  | [major] => k.major == major
  | [major, minor] => k == ⟨major, minor⟩
  | _ => false

/-- The characters of any of these categories and classes. -/
def ofCategories (letters : List String) : CharSet :=
  charsOfCategory fun k => letters.any (isCategory · k)

end XslLowering.Pattern

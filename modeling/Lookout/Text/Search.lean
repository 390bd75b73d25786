/-!
# Words in a text
-/

namespace Lookout.Text

/-- Whether a word stands somewhere in a text. -/
def occursIn (word : List Char) : List Char → Bool
  | [] => word.isEmpty
  | c :: text => word.isPrefixOf (c :: text) || occursIn word text

end Lookout.Text

/-! Attributes that list every choice and put the selected one in brackets, as in
`source [sink]`. It is the text between the first opening and the first closing
bracket; a text in which they do not stand in this order has no marked choice, and
counts as a whole. -/

namespace UsbTypeC

def selectedCharacters (characters : List Char) : List Char :=
  let marked := characters.takeWhile (· ≠ ']')
  if marked.length < characters.length ∧ '[' ∈ marked then
    (marked.dropWhile (· ≠ '[')).tail
  else characters

theorem selectedCharacters_of_no_bracket (characters : List Char)
    (clean : '[' ∉ characters) : selectedCharacters characters = characters := by
  have absent : '[' ∉ characters.takeWhile (· ≠ ']') :=
    fun mem => clean (List.takeWhile_subset _ mem)
  exact if_neg fun marked => absent marked.2

/-- What is selected by a text that may list several choices. -/
def selected (text : String) : String :=
  String.ofList (selectedCharacters text.toList)

end UsbTypeC

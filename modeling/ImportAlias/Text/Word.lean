import ImportAlias.Text.Property

/-!
# Word characters

Blanks, digits and word characters as sets. Word characters are letters and whatever else is
alphabetic, marks, decimal digits, connecting punctuation, and the two invisible joiners.
-/
namespace ImportAlias

namespace CodeSet

def binary (name : String) : CodeSet := (Property.find? Property.binaryTable name.toList).getD empty

def blank : CodeSet := binary "whitespace"

def digit : CodeSet := Property.categoriesOf ["nd"]

def alphabetic : CodeSet := binary "alphabetic"

def numeric : CodeSet := Property.categoriesOf ["nd", "nl", "no"]

def word : CodeSet :=
  unions [alphabetic, Property.categoriesOf ["mn", "mc", "me", "nd", "pc"], binary "joincontrol"]

def asciiBlank : CodeSet := ⟨[(9, 13), (32, 32)]⟩

def asciiDigit : CodeSet := ⟨[(48, 57)]⟩

def asciiWord : CodeSet := ⟨[(48, 57), (65, 90), (95, 95), (97, 122)]⟩

end CodeSet

end ImportAlias

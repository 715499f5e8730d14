import ImportAlias.Text.CodeSet
import ImportAlias.Text.Property.Age
import ImportAlias.Text.Property.Binary
import ImportAlias.Text.Property.Boundary
import ImportAlias.Text.Property.Case
import ImportAlias.Text.Property.Category
import ImportAlias.Text.Property.Script

/-!
# Properties of characters

Properties are found by their names. How a name is written hardly matters: case, blanks,
underscores, hyphens, characters outside ASCII and a leading `is` do not count.
-/
namespace ImportAlias.Property

def isMarked (s : Text) : Bool := s.take 2 |>.map Char.toLower |> (· = ['i', 's'])

/-- A name in the form that tables use. Only `isc` keeps its start: it is a name of its own. -/
def normalize (s : Text) : Text :=
  let rest := if isMarked s then s.drop 2 else s
  let counts (c : Char) : Bool := c.toNat < 128 && c ≠ ' ' && c ≠ '_' && c ≠ '-'
  let name := (rest.filter counts).map Char.toLower
  if isMarked s && name = ['c'] then "isc".toList else name

def goesBy (names : String) (name : Text) : Bool := (splitOn ' ' names.toList).contains name

/-- The set that a table gives under a name. -/
def find? (table : List (String × String)) (name : Text) : Option CodeSet :=
  (table.find? fun (names, _) => goesBy names name).map fun (_, ranges) => .read ranges

/-! Categories -/

/-- The union of categories given by their short names. -/
def categoriesOf (names : List String) : CodeSet :=
  .unions (names.filterMap fun name => find? categoryTable name.toList)

/-- The categories that are made up of others. -/
def wideCategories : List (String × List String) :=
  [("letter l", ["lu", "ll", "lt", "lm", "lo"]),
    ("casedletter lc", ["lu", "ll", "lt"]),
    ("mark m combiningmark", ["mn", "mc", "me"]),
    ("number n", ["nd", "nl", "no"]),
    ("punctuation p punct", ["pc", "pd", "ps", "pe", "pi", "pf", "po"]),
    ("symbol s", ["sm", "sc", "sk", "so"]),
    ("separator z", ["zs", "zl", "zp"])]

def surrogates : CodeRange := (0xD800, 0xDFFF)

/-- All characters of some category, put together when they are asked for. -/
def assigned : Unit → CodeSet := fun _ =>
  .unions (categoryTable.map fun (_, ranges) => .read ranges)

def unassigned (u : Unit) : CodeSet := ((assigned u).union ⟨[surrogates]⟩).complement

def others (u : Unit) : CodeSet := (categoriesOf ["cc", "cf", "co"]).union (unassigned u)

def category? (name : Text) : Option CodeSet :=
  if goesBy "any" name then some .all
  else if goesBy "ascii" name then some (.range 0 127)
  else if goesBy "assigned" name then some (unassigned ()).complement
  else if goesBy "unassigned cn" name then some (unassigned ())
  else if goesBy "other c" name then some (others ())
  else match wideCategories.find? fun (names, _) => goesBy names name with
    | some (_, parts) => some (categoriesOf parts)
    | none => find? categoryTable name

/-! Scripts and ages -/

def script? (name : Text) : Option CodeSet := find? scriptTable name

def extension? (name : Text) : Option CodeSet :=
  (find? extensionTable name).or (script? name)

/-- The characters that came with a version or an earlier one. -/
def age? (name : Text) : Option CodeSet :=
  let earlier := ageTable.takeWhile fun (names, _) => !goesBy names name
  match ageTable.drop earlier.length with
  | [] => none
  | last :: _ => some (.unions ((earlier ++ [last]).map fun (_, ranges) => .read ranges))

/-! Queries -/

inductive Fault where
  | unknownName
  | unknownValue
  deriving DecidableEq

/-- Three short names of categories are names of other properties as well, and mean the
categories. -/
def binary? (name : Text) : Option CodeSet :=
  if ["cf", "sc", "lc"].any (·.toList = name) then none else find? binaryTable name

/-- The characters with a property that has no values, of a category, or of a script. -/
def named (name : Text) : Except Fault CodeSet :=
  let name := normalize name
  match (binary? name).or ((category? name).or (script? name)) with
  | some s => .ok s
  | none => .error .unknownName

/-- The properties with values, by their names. -/
def valued : List (String × (Text → Option CodeSet)) :=
  [("generalcategory gc", category?),
    ("script sc", script?),
    ("scriptextensions scx", extension?),
    ("age", age?),
    ("graphemeclusterbreak gcb", find? graphemeTable),
    ("wordbreak wb", find? wordTable),
    ("sentencebreak sb", find? sentenceTable)]

/-- The characters for which a property has a value. -/
def withValue (name value : Text) : Except Fault CodeSet :=
  match valued.find? fun (names, _) => goesBy names (normalize name) with
  | none => .error .unknownName
  | some (_, values) =>
    match values (normalize value) with
    | some s => .ok s
    | none => .error .unknownValue

end ImportAlias.Property

namespace ImportAlias

/-! Case -/

/-- The characters that differ in case only, class by class. -/
def caseClasses : List (List Nat) :=
  (CodeSet.entries Property.caseTable).map fun s => (splitOn '/' s).map hexNumber

namespace CodeSet

/-- The set with all characters that differ from a member in case only. -/
def ignoringCase (s : CodeSet) : CodeSet :=
  match caseClasses.filter (·.any s.holds) with
  | [] => s
  | classes => ofRanges (s.ranges ++ classes.flatten.map fun n => (n, n))

/-- The same for the letters of ASCII among themselves. -/
def ignoringAsciiCase (s : CodeSet) : CodeSet :=
  let swap (n : Nat) : Nat := if n < 97 then n + 32 else n - 32
  let letters := (List.range 128).filter fun n => (Char.ofNat n).isAlpha && s.holds n
  ofRanges (s.ranges ++ letters.map fun n => (swap n, swap n))

end CodeSet

end ImportAlias

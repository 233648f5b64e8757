import TypedPid.Unicode.CharSet
import TypedPid.Unicode.GeneralCategory
import TypedPid.Unicode.Script
import TypedPid.Unicode.ScriptExtensions
import TypedPid.Unicode.BinaryProperty
import TypedPid.Unicode.Age
import TypedPid.Unicode.BreakProperty

/-!
Properties of characters by name. Names are compared loosely: case, blanks, hyphens, underscores and
a leading "is" do not count.
-/
namespace TypedPid.Unicode

/-- The form in which names are compared. -/
def looseName (name : String) : String :=
  let letters := name.toList.filterMap fun c =>
    if c = ' ' ∨ c = '_' ∨ c = '-' ∨ 0x80 ≤ c.toNat then none
    else some c.toLower
  match name.toList with
  | i :: s :: _ =>
    if i.toLower = 'i' ∧ s.toLower = 's' then
      if letters = ['i', 's', 'c'] then "isc" else String.ofList (letters.drop 2)
    else String.ofList letters
  | _ => String.ofList letters

/-- The row of a table that lists the name. -/
def rowOf (table : List (List String × String)) (name : String) : Option CharSet :=
  (table.find? (·.1.contains name)).map fun row => .ranges (Ranges.ofText row.2)

/-- The categories that a group of categories is made of. -/
def categoryGroups : List (List String × List String) := [
  (["l", "letter"], ["lu", "ll", "lt", "lm", "lo"]),
  (["lc", "casedletter"], ["lu", "ll", "lt"]),
  (["m", "mark", "combiningmark"], ["mn", "mc", "me"]),
  (["n", "number"], ["nd", "nl", "no"]),
  (["p", "punctuation", "punct"], ["pc", "pd", "ps", "pe", "pi", "pf", "po"]),
  (["s", "symbol"], ["sm", "sc", "sk", "so"]),
  (["z", "separator"], ["zs", "zl", "zp"])]

def surrogates : Ranges := [(0xD800, 0xDFFF)]

/-- All characters of some category. -/
def assigned : CharSet :=
  CharSet.unionAll (generalCategories.map fun row => .ranges (Ranges.ofText row.2))

def unassigned : CharSet := .diff (.compl assigned) (.ranges surrogates)

def categories (names : List String) : CharSet :=
  CharSet.unionAll (names.filterMap (rowOf generalCategories))

/-- The characters of a general category or of a group of them. -/
def categoryNamed (name : String) : Option CharSet :=
  if name = "any" then some .all
  else if name = "assigned" then some (.compl unassigned)
  else if name = "ascii" then some (.ranges [(0, 0x7F)])
  else if name = "cn" ∨ name = "unassigned" then some unassigned
  else if name = "c" ∨ name = "other" then some (.union (categories ["cc", "cf", "co"]) unassigned)
  else match categoryGroups.find? (·.1.contains name) with
    | some group => some (categories group.2)
    | none => rowOf generalCategories name

def scriptNamed (name : String) : Option CharSet := rowOf scripts name

/-- The characters used in a script. -/
def scriptExtensionsNamed (name : String) : Option CharSet :=
  (rowOf scriptExtensions name).or (scriptNamed name)

/-- The characters assigned up to a version. -/
def assignedBy (version : String) : Option CharSet :=
  let (earlier, rest) := ages.span (!·.1.contains version)
  rest.head?.map fun row =>
    CharSet.unionAll ((earlier ++ [row]).map fun row => .ranges (Ranges.ofText row.2))

/-- A property given by its own name, a category or a script. -/
def propertyNamed (name : String) : Option CharSet :=
  let name := looseName name
  (rowOf binaryProperties name).or ((categoryNamed name).or (scriptNamed name))

/-- A property given as a kind of property and a value. -/
def propertyWithValue (kind value : String) : Option CharSet :=
  let value := looseName value
  match looseName kind with
  | "gc" | "generalcategory" => categoryNamed value
  | "sc" | "script" => scriptNamed value
  | "scx" | "scriptextensions" => scriptExtensionsNamed value
  | "age" => assignedBy value
  | "gcb" | "graphemeclusterbreak" => rowOf graphemeClusterBreaks value
  | "wb" | "wordbreak" => rowOf wordBreaks value
  | "sb" | "sentencebreak" => rowOf sentenceBreaks value
  | _ => none

def decimalDigits : CharSet := categories ["nd"]

/-- The characters that words are made of. -/
def wordCharacters : CharSet :=
  CharSet.unionAll [.ranges (binaryProperty "alphabetic"), categories ["mn", "mc", "me"],
    decimalDigits, categories ["pc"], .ranges (binaryProperty "joincontrol")]

def alphabetic : Ranges := binaryProperty "alphabetic"

def numeric : CharSet := categories ["nd", "nl", "no"]

def isAlphabetic (c : Char) : Bool := alphabetic.contains c.toNat

def isNumeric (c : Char) : Bool := numeric.contains c.toNat

end TypedPid.Unicode

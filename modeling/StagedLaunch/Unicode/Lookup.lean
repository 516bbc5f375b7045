import StagedLaunch.Unicode.Age
import StagedLaunch.Unicode.Category
import StagedLaunch.Unicode.CharSet
import StagedLaunch.Unicode.Folding
import StagedLaunch.Unicode.Names
import StagedLaunch.Unicode.Property
import StagedLaunch.Unicode.Script
import StagedLaunch.Unicode.Segment

/-!
# Sets of characters by name

`named?` and `valued?` find the set that a property, or a property and a value of it, name; `foldingClosure` adds to a set
every character that differs from a member in case only.
-/

namespace StagedLaunch.Unicode

/-- The set a table gives under a key, empty if it has none. -/
def tableSet (table : List (String × String)) (key : String) : CharSet :=
  CharSet.ofTable ((table.lookup key).getD "")

/-- The key whose list of spellings holds a name. -/
def spelled? (names : List (String × List String)) (name : String) : Option String :=
  (names.find? fun entry => entry.2.contains name).map (·.1)

/-- Drops what spellings ignore and lowers the rest; characters that are not ASCII are dropped. -/
def normalizeName (cs : List Char) : List Char :=
  (cs.filter fun c => c.toNat < 0x80 && c != ' ' && c != '_' && c != '-').map Char.toLower

/-- A spelling in the form that the tables use: the word `is` before a name is ignored too, except in `isc`, which names
another property than `c` does. -/
def canonicalName (name : String) : String :=
  match name.toList with
  | i :: s :: rest =>
    if i.toLower == 'i' && s.toLower == 's' then
      match normalizeName rest with
      | ['c'] => "isc"
      | cs => String.ofList cs
    else String.ofList (normalizeName (i :: s :: rest))
  | cs => String.ofList (normalizeName cs)

/-- The categories that a general category, or a union of them, consists of. -/
def categoryMembers (key : String) : List String :=
  match key with
  | "L" => ["Lu", "Ll", "Lt", "Lm", "Lo"]
  | "LC" => ["Lu", "Ll", "Lt"]
  | "M" => ["Mn", "Mc", "Me"]
  | "N" => ["Nd", "Nl", "No"]
  | "P" => ["Pc", "Pd", "Ps", "Pe", "Pi", "Pf", "Po"]
  | "S" => ["Sm", "Sc", "Sk", "So"]
  | "Z" => ["Zs", "Zl", "Zp"]
  | _ => [key]

/-- The assigned characters. -/
def assigned : CharSet :=
  (categoryRuns.map fun entry => CharSet.ofTable entry.2).foldl CharSet.union CharSet.empty

/-- The members of a general category or of a union of them. -/
def categorySet (key : String) : CharSet :=
  let parts (keys : List String) : CharSet := (keys.map (tableSet categoryRuns)).foldl CharSet.union CharSet.empty
  match key with
  | "Cn" => assigned.complement
  | "C" => (parts ["Cc", "Cf", "Co"]).union assigned.complement
  | _ => parts (categoryMembers key)

/-- The set that the name of a general category gives, the three sets that are no category among them. -/
def category? (name : String) : Option CharSet :=
  match name with
  | "any" => some CharSet.empty.complement
  | "assigned" => some assigned
  | "ascii" => some (CharSet.range 0 0x7F)
  | _ => (spelled? categoryNames name).map categorySet

/-- The set that the name of a script gives. -/
def script? (name : String) : Option CharSet :=
  (spelled? scriptNames name).map (tableSet scriptRuns)

/-- The set that the name of a script gives under `Script_Extensions`. -/
def scriptExtension? (name : String) : Option CharSet :=
  (spelled? scriptNames name).map fun key =>
    match scriptExtensionRuns.lookup key with
    | some runs => CharSet.ofTable runs
    | none => tableSet scriptRuns key

/-- The characters assigned up to a version, which is written with a period or as a word such as `v60`. -/
def age? (name : String) : Option CharSet :=
  let spelling (version : String) : String := "v" ++ String.ofList (version.toList.filter (· != '.'))
  let upTo := ageRuns.takeWhile fun entry => !(entry.1 == name || spelling entry.1 == name)
  match ageRuns.drop upTo.length with
  | [] => none
  | last :: _ => some ((upTo ++ [last]).foldl (fun s entry => s.union (CharSet.ofTable entry.2)) CharSet.empty)

/-- The set that a spelling of a value gives in tables of names and of runs. -/
def valueIn (names : List (String × List String)) (runs : List (String × String)) (value : String) :
    Option CharSet :=
  (spelled? names value).map (tableSet runs)

/-- The set that one name gives: a binary property, else a general category, else a script. Three names that also abbreviate
a property which is not binary are categories. -/
def named? (name : String) : Option CharSet :=
  let key := canonicalName name
  let property :=
    if key == "cf" || key == "sc" || key == "lc" then none else valueIn propertyNames propertyRuns key
  (property.orElse fun _ => category? key).orElse fun _ => script? key

/-- The set that a property and a value of it give. -/
def valued? (property value : String) : Option CharSet :=
  let value := canonicalName value
  match canonicalName property with
  | "gc" | "generalcategory" => category? value
  | "sc" | "script" => script? value
  | "scx" | "scriptextensions" => scriptExtension? value
  | "age" => age? value
  | "gcb" | "graphemeclusterbreak" => valueIn graphemeBreakNames graphemeBreakRuns value
  | "wb" | "wordbreak" => valueIn wordBreakNames wordBreakRuns value
  | "sb" | "sentencebreak" => valueIn sentenceBreakNames sentenceBreakRuns value
  | _ => none

/-- The letters, marks and other characters with the property `Alphabetic`. -/
def alphabetic : CharSet := tableSet propertyRuns "Alphabetic"

/-- The decimal digits. -/
def decimalDigits : CharSet := categorySet "Nd"

/-- The digits and other characters with a numeric category. -/
def numeric : CharSet := categorySet "N"

/-- The characters of words: letters, marks, digits, connectors and joiners. -/
def wordCharacters : CharSet :=
  ((((alphabetic.union (categorySet "M")).union decimalDigits).union (categorySet "Pc")).union
    (tableSet propertyRuns "Join_Control"))

/-- The characters with the property `White_Space`. -/
def blanks : CharSet := tableSet propertyRuns "White_Space"

/-- The orbits of characters that differ in case only. -/
def orbits : List (List Nat) :=
  (columns foldingOrbits.toList).map fun orbit =>
    (orbit.splitOn '=').filterMap (readDigits 16)

/-- A set with every character that differs from a member in case only. -/
def foldingClosure (s : CharSet) : CharSet :=
  CharSet.ofRuns (s.runs ++ ((orbits.filter fun orbit => orbit.any s.contains).flatMap fun orbit =>
    orbit.map fun n => (n, n)))

end StagedLaunch.Unicode

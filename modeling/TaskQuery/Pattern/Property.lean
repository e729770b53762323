/-
# Character properties by name

A pattern names a class of characters by a property of Unicode 16, alone or as
`property=value`. Names are compared without regard to case, blanks, underscores,
hyphens and a leading `is`. A name alone is a binary property before it is a
general category, and a category before it is a script, except for three short
names that are categories first. The properties that take a value are the general
category, the script, the scripts a character is used with, the age, and the three
that tell where graphemes, words and sentences break.
-/

import TaskQuery.Pattern.AgeTable
import TaskQuery.Pattern.BreakTable
import TaskQuery.Pattern.CategoryTable
import TaskQuery.Pattern.ScriptTable

namespace TaskQuery.Pattern

/-- How a pattern names a class of characters. -/
inductive PropertyName
  | alone (name : List Char)
  | valued (property value : List Char)

/-- The form of a name in which names are compared. -/
def plainName (name : List Char) : String :=
  let (is, body) :=
    match name with
    | i :: s :: rest => if i.toLower = 'i' ∧ s.toLower = 's' then (true, rest) else (false, name)
    | _ => (false, name)
  let kept := (body.filter fun c => c.toNat < 0x80 && c != ' ' && c != '_' && c != '-').map
    Char.toLower
  if is ∧ kept = ['c'] then "isc" else String.ofList kept

/-- The categories that a category of one letter, or of cased letters, is made
of. -/
def categoryGroups : List (List String × List String) :=
  [(["lc", "casedletter"], ["lu", "ll", "lt"]),
   (["l", "letter"], ["lu", "ll", "lt", "lm", "lo"]),
   (["m", "mark", "combiningmark"], ["mn", "mc", "me"]),
   (["n", "number"], ["nd", "nl", "no"]),
   (["p", "punctuation", "punct"], ["pc", "pd", "ps", "pe", "pi", "pf", "po"]),
   (["s", "symbol"], ["sm", "sc", "sk", "so"]),
   (["z", "separator"], ["zs", "zl", "zp"]),
   (["c", "other"], ["cc", "cf", "co", "cn"])]

/-- The codes that are no characters. The category of all that is neither letter, mark,
number, punctuation, symbol nor separator counts them in, so its ranges run across
them. -/
def surrogates : CharSet := ⟨[(0xD800, 0xDFFF)]⟩

/-- The characters of a general category. -/
def categorySet? (name : String) : Option CharSet :=
  if name = "any" then some .all
  else if name = "ascii" then some ⟨[(0, 0x7F)]⟩
  else if name = "assigned" then
    (NamedRanges.find? categoryTable "cn").map CharSet.complement
  else
    match categoryGroups.find? fun group => group.1.contains name with
    | some (_, parts) =>
        let start := if parts.contains "cn" then surrogates else .empty
        some (parts.foldl (fun set part =>
          set.union ((NamedRanges.find? categoryTable part).getD .empty)) start)
    | none => NamedRanges.find? categoryTable name

/-- The characters of a script. -/
def scriptSet? (name : String) : Option CharSet :=
  NamedRanges.find? scriptTable name

/-- The characters that are used with a script. -/
def scriptExtensionSet? (name : String) : Option CharSet :=
  (NamedRanges.find? scriptExtensionTable name).or (scriptSet? name)

/-- The characters that a version of the standard and those before it assigned. -/
def ageSet? (version : String) : Option CharSet :=
  match ageTable.findIdx? fun entry => entry.names.contains version with
  | some index =>
      some ((ageTable.take (index + 1)).foldl (fun set entry => set.union entry.set) .empty)
  | none => none

/-- The characters that a property name stands for. -/
def PropertyName.set? : PropertyName → Option CharSet
  | alone name =>
      let name := plainName name
      let binary :=
        if ["cf", "sc", "lc"].contains name then none
        else NamedRanges.find? binaryTable name
      (binary.or (categorySet? name)).or (scriptSet? name)
  | valued property value =>
      let value := plainName value
      match plainName property with
      | "gc" | "generalcategory" => categorySet? value
      | "sc" | "script" => scriptSet? value
      | "scx" | "scriptextensions" => scriptExtensionSet? value
      | "age" => ageSet? value
      | "gcb" | "graphemeclusterbreak" => NamedRanges.find? graphemeBreakTable value
      | "wb" | "wordbreak" => NamedRanges.find? wordBreakTable value
      | "sb" | "sentencebreak" => NamedRanges.find? sentenceBreakTable value
      | _ => none

/-- A property that the tables are known to hold. -/
def knownSet (name : String) : CharSet :=
  (PropertyName.alone name.toList).set?.getD .empty

/-- The characters of words: letters, marks, digits, and what connects them. -/
def wordSet : CharSet :=
  [knownSet "m", knownSet "nd", knownSet "pc", knownSet "joincontrol"].foldl CharSet.union
    (knownSet "alphabetic")

/-- The decimal digits. -/
def digitSet : CharSet := knownSet "nd"

/-- The blanks. -/
def spaceSet : CharSet := knownSet "whitespace"

end TaskQuery.Pattern

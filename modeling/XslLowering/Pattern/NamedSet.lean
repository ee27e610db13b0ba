import XslLowering.Pattern.Segment

/-!
# Sets of characters by name

`setNamed?` finds the set that a pattern names after `\p`: a general category, a script or a
property that is true or false of a character. `setWithValue?` finds the set of the characters for
which a property has a value. Case, blanks, hyphens, underscores and a leading `is` do not matter in
a name.
-/

namespace XslLowering.Pattern

open Text

/-- A name in lower case and without separators. -/
def plainName (name : List Char) : String :=
  String.ofList ((name.filter fun c => c != ' ' && c != '_' && c != '-' && c.toNat < 128).map
    Char.toLower)

/-- A name without what does not matter in it. Only in `isc` the first two letters do. -/
def normalizeName (name : List Char) : String :=
  match name with
  | a :: b :: rest =>
    if a.toLower == 'i' && b.toLower == 's' then
      if plainName rest == "c" then "isc" else plainName rest
    else plainName name
  | _ => plainName name

/-- The categories and classes of categories under all their names. Surrogates are no characters, so
they have no name. -/
def categoryNames : List (List String × List String) :=
  [(["c", "other"], ["C"]), (["cc", "control", "cntrl"], ["Cc"]), (["cf", "format"], ["Cf"]),
    (["cn", "unassigned"], ["Cn"]), (["co", "privateuse"], ["Co"]), (["l", "letter"], ["L"]),
    (["lc", "casedletter"], ["Ll", "Lt", "Lu"]), (["ll", "lowercaseletter"], ["Ll"]),
    (["lm", "modifierletter"], ["Lm"]), (["lo", "otherletter"], ["Lo"]),
    (["lt", "titlecaseletter"], ["Lt"]), (["lu", "uppercaseletter"], ["Lu"]),
    (["m", "mark", "combiningmark"], ["M"]), (["mc", "spacingmark"], ["Mc"]),
    (["me", "enclosingmark"], ["Me"]), (["mn", "nonspacingmark"], ["Mn"]),
    (["n", "number"], ["N"]), (["nd", "decimalnumber", "digit"], ["Nd"]),
    (["nl", "letternumber"], ["Nl"]), (["no", "othernumber"], ["No"]),
    (["p", "punctuation", "punct"], ["P"]), (["pc", "connectorpunctuation"], ["Pc"]),
    (["pd", "dashpunctuation"], ["Pd"]), (["pe", "closepunctuation"], ["Pe"]),
    (["pf", "finalpunctuation"], ["Pf"]), (["pi", "initialpunctuation"], ["Pi"]),
    (["po", "otherpunctuation"], ["Po"]), (["ps", "openpunctuation"], ["Ps"]),
    (["s", "symbol"], ["S"]), (["sc", "currencysymbol"], ["Sc"]),
    (["sk", "modifiersymbol"], ["Sk"]), (["sm", "mathsymbol"], ["Sm"]),
    (["so", "othersymbol"], ["So"]), (["z", "separator"], ["Z"]),
    (["zl", "lineseparator"], ["Zl"]), (["zp", "paragraphseparator"], ["Zp"]),
    (["zs", "spaceseparator"], ["Zs"])]

/-- The general category with this normalized name. -/
def categoryNamed? (name : String) : Option CharSet :=
  if name == "any" then some CharSet.empty.complement
  else if name == "assigned" then some (ofCategories ["Cn"]).complement
  else if name == "ascii" then some (.ofText "0-7f")
  else (categoryNames.find? (·.1.contains name)).map fun entry => ofCategories entry.2

/-- The script with this normalized name. -/
def scriptSet? (name : String) : Option CharSet := (scriptNamed? name).map scriptChars

/-- The normalized names of an edition. -/
def editionNames (edition : Edition) : List String :=
  let major := toString edition.major
  let minor := toString edition.minor
  [s!"{major}.{minor}", s!"v{major}{minor}"]

/-- The characters that are at least as old as the edition with this normalized name. -/
def ageSet? (name : String) : Option CharSet :=
  (introductions.find? fun (edition, _) =>
    edition.atMost patternEdition && (editionNames edition).contains name).map fun (newest, _) =>
      introducedIn (·.atMost newest)

def NamedSets.find? (sets : NamedSets) (name : String) : Option CharSet :=
  (List.find? (·.1.contains name) sets).map (·.2)

/-- The set with this name. -/
def setNamed? (name : List Char) : Option CharSet :=
  let name := normalizeName name
  (NamedSets.find? booleanProperties name).or ((categoryNamed? name).or (scriptSet? name))

/-- The characters for which the property with this name has this value. -/
def setWithValue? (name value : List Char) : Option CharSet :=
  let value := normalizeName value
  match normalizeName name with
  | "gc" | "generalcategory" => categoryNamed? value
  | "sc" | "script" => scriptSet? value
  | "scx" | "scriptextensions" => (scriptNamed? value).map extendedScriptChars
  | "age" => ageSet? value
  | "gcb" | "graphemeclusterbreak" => clusterKinds.find? value
  | "wb" | "wordbreak" => wordKinds.find? value
  | "sb" | "sentencebreak" => sentenceKinds.find? value
  | _ => none

end XslLowering.Pattern

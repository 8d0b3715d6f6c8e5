import Tenancy.Regex.CharSet
import Tenancy.Text.Script

/-!
# Named properties in patterns

The names by which a pattern can refer to general categories, scripts and other
properties of characters.  Names are compared without regard to case, blanks,
dashes, underscores and a leading `is`.
-/

namespace Tenancy.Regex.Property

/-- The part of a name that counts in comparisons. -/
def normalName (name : List Char) : List Char :=
  let lower := name.map Char.toLower
  let start : Bool := ['i', 's'].isPrefixOf lower
  let kept := (if start then lower.drop 2 else lower).filter fun char =>
    char.toNat < 0x80 && char != ' ' && char != '_' && char != '-'
  if start && kept == ['c'] then ['i', 's', 'c'] else kept

/-- The general categories that are groups of others, and the long names of
all. -/
def categoryNames : List (List String × List String) :=
  [(["lu", "uppercaseletter"], ["Lu"]), (["ll", "lowercaseletter"], ["Ll"]),
    (["lt", "titlecaseletter"], ["Lt"]), (["lc", "casedletter"], ["Lu", "Ll", "Lt"]),
    (["lm", "modifierletter"], ["Lm"]), (["lo", "otherletter"], ["Lo"]),
    (["l", "letter"], ["Lu", "Ll", "Lt", "Lm", "Lo"]),
    (["mn", "nonspacingmark"], ["Mn"]), (["mc", "spacingmark"], ["Mc"]),
    (["me", "enclosingmark"], ["Me"]), (["m", "mark", "combiningmark"], ["Mn", "Mc", "Me"]),
    (["nd", "decimalnumber", "digit"], ["Nd"]), (["nl", "letternumber"], ["Nl"]),
    (["no", "othernumber"], ["No"]), (["n", "number"], ["Nd", "Nl", "No"]),
    (["pc", "connectorpunctuation"], ["Pc"]), (["pd", "dashpunctuation"], ["Pd"]),
    (["ps", "openpunctuation"], ["Ps"]), (["pe", "closepunctuation"], ["Pe"]),
    (["pi", "initialpunctuation"], ["Pi"]), (["pf", "finalpunctuation"], ["Pf"]),
    (["po", "otherpunctuation"], ["Po"]),
    (["p", "punctuation", "punct"], ["Pc", "Pd", "Ps", "Pe", "Pi", "Pf", "Po"]),
    (["sm", "mathsymbol"], ["Sm"]), (["sc", "currencysymbol"], ["Sc"]),
    (["sk", "modifiersymbol"], ["Sk"]), (["so", "othersymbol"], ["So"]),
    (["s", "symbol"], ["Sm", "Sc", "Sk", "So"]),
    (["zs", "spaceseparator"], ["Zs"]), (["zl", "lineseparator"], ["Zl"]),
    (["zp", "paragraphseparator"], ["Zp"]), (["z", "separator"], ["Zs", "Zl", "Zp"]),
    (["cc", "control", "cntrl"], ["Cc"]), (["cf", "format"], ["Cf"]),
    (["cs", "surrogate"], ["Cs"]), (["co", "privateuse"], ["Co"]),
    (["cn", "unassigned"], ["Cn"]), (["c", "other"], ["Cc", "Cf", "Cs", "Co", "Cn"])]

/-- The characters of some general categories. -/
def ofCategories (categories : List String) : CharSet :=
  let ranges := (Text.categories.filter (categories.contains ·.1)).map (·.2.ranges.length)
  .ofTest (fun char => categories.contains (Text.category char))
    (CharSet.rangeWeight * ranges.foldl (· + ·) 1)

/-- The characters of a property. -/
def ofProperty (property : Text.Property) : CharSet :=
  .ofTest property.holds (700 * CharSet.rangeWeight)

/-- The general category with a name. -/
def category? (name : List Char) : Option CharSet :=
  if name == "any".toList then some CharSet.all
  else if name == "ascii".toList then some (CharSet.range 0 0x7F)
  else if name == "assigned".toList then some (ofCategories [Text.unassigned]).complement
  else
    (categoryNames.find? fun (names, _) => names.any (·.toList == name)).map
      fun (_, categories) => ofCategories categories

/-- The script with a name. -/
def script? (name : List Char) : Option CharSet :=
  (Text.scripts.find? fun (long, short, _) =>
      normalName long.toList == name || normalName short.toList == name).map
    fun (_, _, set) => CharSet.ofCodePoints set

/-- The other property with a name. -/
def binary? (name : List Char) : Option CharSet :=
  if name == "alphabetic".toList || name == "alpha".toList then
    some (ofProperty Text.alphabetic)
  else if name == "lowercase".toList || name == "lower".toList then
    some (ofProperty Text.lowercase)
  else if name == "uppercase".toList || name == "upper".toList then
    some (ofProperty Text.uppercase)
  else if name == "whitespace".toList || name == "wspace".toList || name == "space".toList then
    some (CharSet.blanks true)
  else if name == "asciihexdigit".toList || name == "ahex".toList then
    some (CharSet.ofRanges [('0', '9'), ('A', 'F'), ('a', 'f')])
  else if name == "graphemeextend".toList || name == "grext".toList then
    some (ofProperty Text.extending)
  else none

/-- The names that mean a general category although a property has them too. -/
def categoryFirst : List String := ["cf", "sc", "lc"]

/-- The characters with a property, a general category or a script of a name. -/
def named? (name : List Char) : Option CharSet :=
  let name := normalName name
  let binary :=
    if categoryFirst.any (·.toList == name) then none else binary? name
  binary <|> category? name <|> script? name

/-- The characters for which a property has a value. -/
def valued? (property value : List Char) : Option CharSet :=
  let property := normalName property
  let value := normalName value
  if property == "gc".toList || property == "generalcategory".toList then category? value
  else if property == "sc".toList || property == "script".toList then script? value
  else if property == "scx".toList || property == "scriptextensions".toList then script? value
  else none

/-- The characters that a description between braces means: a name, or a
property and its value. -/
def described? (text : List Char) : Option CharSet :=
  let before (char : Char) : List Char := text.takeWhile (· ≠ char)
  let behind (char : Char) : List Char := (text.dropWhile (· ≠ char)).drop 1
  let negated := before '!'
  match behind '!' with
  | '=' :: value => (valued? negated value).map CharSet.complement
  | _ =>
    if text.contains ':' then valued? (before ':') (behind ':')
    else if text.contains '=' then valued? (before '=') (behind '=')
    else named? text

end Tenancy.Regex.Property

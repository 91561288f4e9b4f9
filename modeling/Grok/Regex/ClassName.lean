import Grok.Unicode.Property
import Grok.Unicode.Script

namespace Grok.Regex.ClassName

open Unicode

def startsWithIs : Text → Bool
  | a :: b :: _ => (a == 'i' || a == 'I') && (b == 's' || b == 'S')
  | _ => false

def normalize (name : Text) : Text :=
  let marked := startsWithIs name
  let rest := if marked then name.drop 2 else name
  let letters := (rest.filter fun c => c.toNat < 128 && c != ' ' && c != '_' && c != '-').map
    Char.toLower
  if marked && letters = ['c'] then "isc" else letters

def isOneOf (normal : Text) (names : List String) : Bool :=
  names.any fun n => normalize n = normal

def categories : List (List String × List Category) := [
  (["L", "Letter"], Category.letters),
  (["LC", "Cased_Letter"], Category.casedLetters),
  (["M", "Mark", "Combining_Mark"], Category.marks),
  (["N", "Number"], Category.numbers),
  (["P", "Punctuation", "punct"], Category.punctuation),
  (["S", "Symbol"], Category.symbols),
  (["Z", "Separator"], Category.separators),
  (["Lu", "Uppercase_Letter"], [.uppercaseLetter]),
  (["Ll", "Lowercase_Letter"], [.lowercaseLetter]),
  (["Lt", "Titlecase_Letter"], [.titlecaseLetter]),
  (["Lm", "Modifier_Letter"], [.modifierLetter]),
  (["Lo", "Other_Letter"], [.otherLetter]),
  (["Mn", "Nonspacing_Mark"], [.nonspacingMark]),
  (["Mc", "Spacing_Mark"], [.spacingMark]),
  (["Me", "Enclosing_Mark"], [.enclosingMark]),
  (["Nd", "Decimal_Number", "digit"], [.decimalNumber]),
  (["Nl", "Letter_Number"], [.letterNumber]),
  (["No", "Other_Number"], [.otherNumber]),
  (["Pc", "Connector_Punctuation"], [.connectorPunctuation]),
  (["Pd", "Dash_Punctuation"], [.dashPunctuation]),
  (["Ps", "Open_Punctuation"], [.openPunctuation]),
  (["Pe", "Close_Punctuation"], [.closePunctuation]),
  (["Pi", "Initial_Punctuation"], [.initialPunctuation]),
  (["Pf", "Final_Punctuation"], [.finalPunctuation]),
  (["Po", "Other_Punctuation"], [.otherPunctuation]),
  (["Sm", "Math_Symbol"], [.mathSymbol]),
  (["Sc", "Currency_Symbol"], [.currencySymbol]),
  (["Sk", "Modifier_Symbol"], [.modifierSymbol]),
  (["So", "Other_Symbol"], [.otherSymbol]),
  (["Zs", "Space_Separator"], [.spaceSeparator]),
  (["Zl", "Line_Separator"], [.lineSeparator]),
  (["Zp", "Paragraph_Separator"], [.paragraphSeparator]),
  (["Cc", "Control", "cntrl"], [.control]),
  (["Cf", "Format"], [.format]),
  (["Co", "Private_Use"], [.privateUse])]

def category? (normal : Text) : Option CharSet :=
  if normal = "any" then some .full
  else if normal = "assigned" then some Category.assigned
  else if normal = "ascii" then some (.ofTable "0-7F")
  else if isOneOf normal ["Cn", "Unassigned"] then some Category.unassigned
  else if isOneOf normal ["C", "Other"] then
    some (Category.unassigned.union (Category.charsOf [.control, .format, .privateUse]))
  else (categories.find? fun entry => isOneOf normal entry.1).map fun entry =>
    Category.charsOf entry.2

def script? (normal : Text) : Option Script :=
  Script.all.find? fun script => isOneOf normal (script.name :: script.codes)

def property? (normal : Text) : Option CharSet :=
  match Property.computed.find? fun entry => isOneOf normal entry.1 with
  | some entry => some entry.2
  | none =>
    (Property.tables.find? fun entry => isOneOf normal entry.1).map fun entry => .ofTable entry.2

def unicode? (name : Text) : Option CharSet :=
  let normal := normalize name
  let property := if isOneOf normal ["cf", "sc", "lc"] then none else property? normal
  property.or ((category? normal).or ((script? normal).map Script.chars))

def unicodeValue? (name value : Text) : Option CharSet :=
  let normal := normalize name
  let value := normalize value
  if isOneOf normal ["gc", "General_Category", "category"] then category? value
  else if isOneOf normal ["sc", "Script"] then (script? value).map Script.chars
  else if isOneOf normal ["scx", "Script_Extensions"] then (script? value).map Script.extended
  else none

def asciiTables : List (String × String) := [
  ("alnum", "30-39 41-5A 61-7A"),
  ("alpha", "41-5A 61-7A"),
  ("ascii", "0-7F"),
  ("blank", "9 20"),
  ("cntrl", "0-1F 7F"),
  ("digit", "30-39"),
  ("graph", "21-7E"),
  ("lower", "61-7A"),
  ("print", "20-7E"),
  ("punct", "21-2F 3A-40 5B-60 7B-7E"),
  ("space", "9-D 20"),
  ("upper", "41-5A"),
  ("word", "30-39 41-5A 5F 61-7A"),
  ("xdigit", "30-39 41-46 61-66")]

def ascii? (name : Text) : Option CharSet :=
  (asciiTables.find? fun entry => (entry.1 : Text) = name).map fun entry => .ofTable entry.2

end Grok.Regex.ClassName

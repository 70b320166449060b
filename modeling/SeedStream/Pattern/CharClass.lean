import SeedStream.Pattern.BreakClass
import SeedStream.Unicode.Age
import SeedStream.Unicode.ScriptSet

/-!
# Named sets of characters

Digits, blanks and word characters, the named ASCII classes, and the sets of a
general category, a script or another property.
-/

set_option autoImplicit false

namespace SeedStream.CharClass

inductive Kind
  | digit
  | space
  | word
deriving DecidableEq, Repr

def Kind.unicode : Kind → CharSet
  | .digit => .ofRanges Unicode.decimalDigits
  | .space => .ofRanges Unicode.whiteSpace
  | .word => .ofRanges Unicode.word

def Kind.ascii : Kind → CharSet
  | .digit => .ofRanges [(0x30, 0x39)]
  | .space => .ofRanges [(9, 13), (0x20, 0x20)]
  | .word => .ofRanges [(0x30, 0x39), (0x41, 0x5a), (0x5f, 0x5f), (0x61, 0x7a)]

def asciiClasses : List (String × List (Nat × Nat)) :=
  [("alnum", [(0x30, 0x39), (0x41, 0x5a), (0x61, 0x7a)]),
    ("alpha", [(0x41, 0x5a), (0x61, 0x7a)]),
    ("ascii", [(0, 0x7f)]),
    ("blank", [(9, 9), (0x20, 0x20)]),
    ("cntrl", [(0, 0x1f), (0x7f, 0x7f)]),
    ("digit", [(0x30, 0x39)]),
    ("graph", [(0x21, 0x7e)]),
    ("lower", [(0x61, 0x7a)]),
    ("print", [(0x20, 0x7e)]),
    ("punct", [(0x21, 0x2f), (0x3a, 0x40), (0x5b, 0x60), (0x7b, 0x7e)]),
    ("space", [(9, 13), (0x20, 0x20)]),
    ("upper", [(0x41, 0x5a)]),
    ("word", [(0x30, 0x39), (0x41, 0x5a), (0x5f, 0x5f), (0x61, 0x7a)]),
    ("xdigit", [(0x30, 0x39), (0x41, 0x46), (0x61, 0x66)])]

def ascii? (name : String) : Option CharSet :=
  (asciiClasses.lookup name).map .ofRanges

/-- General categories with their long names in loose form. A code of one letter
stands for all categories that begin with it. -/
def categoryNames : List (String × List String) :=
  [("L", ["l", "letter"]), ("LC", ["lc", "casedletter"]), ("Lu", ["lu", "uppercaseletter"]),
    ("Ll", ["ll", "lowercaseletter"]), ("Lt", ["lt", "titlecaseletter"]),
    ("Lm", ["lm", "modifierletter"]), ("Lo", ["lo", "otherletter"]),
    ("M", ["m", "mark", "combiningmark"]), ("Mn", ["mn", "nonspacingmark"]),
    ("Mc", ["mc", "spacingmark"]), ("Me", ["me", "enclosingmark"]), ("N", ["n", "number"]),
    ("Nd", ["nd", "decimalnumber", "digit"]), ("Nl", ["nl", "letternumber"]),
    ("No", ["no", "othernumber"]), ("P", ["p", "punctuation", "punct"]),
    ("Pc", ["pc", "connectorpunctuation"]), ("Pd", ["pd", "dashpunctuation"]),
    ("Ps", ["ps", "openpunctuation"]), ("Pe", ["pe", "closepunctuation"]),
    ("Pi", ["pi", "initialpunctuation"]), ("Pf", ["pf", "finalpunctuation"]),
    ("Po", ["po", "otherpunctuation"]), ("S", ["s", "symbol"]), ("Sm", ["sm", "mathsymbol"]),
    ("Sc", ["sc", "currencysymbol"]), ("Sk", ["sk", "modifiersymbol"]),
    ("So", ["so", "othersymbol"]), ("Z", ["z", "separator"]), ("Zs", ["zs", "spaceseparator"]),
    ("Zl", ["zl", "lineseparator"]), ("Zp", ["zp", "paragraphseparator"]),
    ("C", ["c", "other"]), ("Cc", ["cc", "control", "cntrl"]),
    ("Cf", ["cf", "format"]), ("Co", ["co", "privateuse"]), ("Cn", ["cn", "unassigned"])]

def fold (name : List Char) : String :=
  String.ofList ((name.filter fun c =>
    c.toNat < 0x80 && c != ' ' && c != '_' && c != '-').map Char.toLower)

/-- The loose form of a name: folded, without an `is` at its very front. The name
of one property begins with these letters. -/
def looseName (name : String) : String :=
  match name.toList with
  | i :: s :: rest =>
    if i.toLower = 'i' ∧ s.toLower = 's' then
      if fold rest = "c" then "isc" else fold rest
    else fold (i :: s :: rest)
  | cs => fold cs

def ofCategory (code : String) : CharSet :=
  match code.toList with
  | [group] => .ofRanges (Unicode.withCategory (Unicode.inGroup group))
  | _ =>
    if code = "LC" then
      .ofRanges (Unicode.withCategory fun c => c == "Lu" || c == "Ll" || c == "Lt")
    else .ofRanges (Unicode.withCategory (· == code))

def category? (loose : String) : Option CharSet :=
  if loose = "any" then some CharSet.empty.complement
  else if loose = "ascii" then some (.ofRanges [(0, 0x7f)])
  else if loose = "assigned" then some (ofCategory "Cn").complement
  else (categoryNames.find? fun p => p.2.contains loose).map fun p => ofCategory p.1

def scriptCode? (loose : String) : Option String :=
  match Unicode.scripts.find? fun names => (names.map looseName).contains loose with
  | some (code :: _) => if code = "Zzzz" then none else some code
  | _ => none

def script? (loose : String) : Option CharSet :=
  (scriptCode? loose).map fun code => .ofRanges (Unicode.withScript code)

def scriptUse? (loose : String) : Option CharSet :=
  (scriptCode? loose).map fun code =>
    .without (Unicode.withScript code ++ Unicode.scriptSetsWhere (·.contains code))
      (Unicode.scriptSetsWhere fun codes => !codes.contains code)

def listed (table : List String) : CharSet :=
  .ofRanges (Unicode.decodeRanges (String.join table))

def binary? (loose : String) : Option CharSet :=
  match loose with
  | "alphabetic" | "alpha" => some (.ofRanges Unicode.alphabetic)
  | "lowercase" | "lower" => some (.ofRanges Unicode.lowercase)
  | "uppercase" | "upper" => some (.ofRanges Unicode.uppercase)
  | "cased" => some (.ofRanges Unicode.cased)
  | "caseignorable" | "ci" => some (.ofRanges Unicode.caseIgnorable)
  | "whitespace" | "wspace" | "space" => some (.ofRanges Unicode.whiteSpace)
  | "graphemebase" | "grbase" => some (CharSet.ofRanges Unicode.noGraphemeBase).complement
  | "graphemeextend" | "grext" => some (.ofRanges Unicode.graphemeExtend)
  | "idstart" | "ids" => some (.without Unicode.identifierStart Unicode.patternLetter)
  | "idcontinue" | "idc" => some (.without Unicode.identifierPart Unicode.patternLetter)
  | "xidstart" | "xids" =>
    some (.without Unicode.identifierStart
      (Unicode.patternLetter ++ Unicode.unstablePart ++ Unicode.unstableStart))
  | "xidcontinue" | "xidc" =>
    some (.without Unicode.identifierPart (Unicode.patternLetter ++ Unicode.unstablePart))
  | "asciihexdigit" | "ahex" => ascii? "xdigit"
  | "joincontrol" | "joinc" => some (.ofRanges [(0x200c, 0x200d)])
  | "math" => some (.ofRanges Unicode.math)
  | "otheralphabetic" | "oalpha" => some (listed Unicode.otherAlphabetic)
  | "otherlowercase" | "olower" => some (listed Unicode.otherLowercase)
  | "otheruppercase" | "oupper" => some (listed Unicode.otherUppercase)
  | "othermath" | "omath" => some (listed Unicode.otherMath)
  | "othergraphemeextend" | "ogrext" => some (listed Unicode.otherGraphemeExtend)
  | "otheridstart" | "oids" => some (.ofRanges Unicode.otherIdentifierStart)
  | "otheridcontinue" | "oidc" => some (.ofRanges Unicode.otherIdentifierPart)
  | _ => (Unicode.listed? loose).map .ofRanges

def property? (name : String) : Option CharSet :=
  let loose := looseName name
  (binary? loose <|> category? loose) <|> script? loose

def valued? (name value : String) : Option CharSet :=
  match looseName name with
  | "generalcategory" | "gc" => category? (looseName value)
  | "script" | "sc" => script? (looseName value)
  | "scriptextensions" | "scx" => scriptUse? (looseName value)
  | "age" => (Unicode.age? (looseName value)).map .ofRanges
  | "graphemeclusterbreak" | "gcb" => clusterBreak? (looseName value)
  | "wordbreak" | "wb" => wordBreak? (looseName value)
  | "sentencebreak" | "sb" => sentenceBreak? (looseName value)
  | _ => none

end SeedStream.CharClass

import Candlestick.Text.Items
import Candlestick.Yaml.Scalar.Moment

/-!
# Tags of nodes

The tag of a node says what kind of value it stands for. A plain scalar without a tag gets the
tag of the first kind whose spelling it has, and is a text otherwise.
-/

namespace Candlestick.Yaml

/-- The kinds of values. `mergeKey` and `defaultKey` are the kinds of two special keys. -/
inductive Tag where
  | null
  | boolean
  | integer
  | decimal
  | text
  | binary
  | moment
  | sequence
  | mapping
  | set
  | orderedMap
  | pairs
  | mergeKey
  | defaultKey
  | other (name : String)
deriving DecidableEq, Repr

namespace Tag

/-- What the handle of two exclamation marks stands for. -/
def standardHandle : String :=
  "tag:yaml.org,2002:"

/-- The kinds that have a name of their own behind the standard handle. -/
def named : List (String × Tag) :=
  [("null", null), ("bool", boolean), ("int", integer), ("float", decimal), ("str", text),
    ("binary", binary), ("timestamp", moment), ("seq", sequence), ("map", mapping), ("set", set),
    ("omap", orderedMap), ("pairs", pairs), ("merge", mergeKey), ("value", defaultKey)]

def ofName (name : String) : Tag :=
  match named.find? fun (word, _) ↦ standardHandle ++ word == name with
  | some (_, tag) => tag
  | none => other name

def isCollection : Tag → Bool
  | sequence | mapping | set | orderedMap | pairs => true
  | _ => false

def booleanWords : List (String × Bool) :=
  [("yes", true), ("no", false), ("true", true), ("false", false), ("on", true), ("off", false)]

/-- Whether a word is in lower case, in upper case, or capitalised. -/
def isEvenlyCased (cs : List Char) : Bool :=
  let tail := cs.drop 1
  cs.all Char.isLower || cs.all Char.isUpper ||
    ((cs.take 1).all Char.isUpper && tail.all Char.isLower)

/-- Whether a text is one of the words, evenly cased. -/
def isWord (words : List String) (cs : List Char) : Bool :=
  isEvenlyCased cs && words.contains (String.ofList (cs.map Char.toLower))

def withoutSign : List Char → List Char
  | '+' :: rest => rest
  | '-' :: rest => rest
  | cs => cs

/-- Whether a text consists of digits and underscores and starts with a digit. -/
def isDigitRun (cs : List Char) : Bool :=
  (cs.head?.map Char.isDigit).getD false && cs.all fun c ↦ c.isDigit || c == '_'

/-- Whether a text writes a number below sixty with one or two digits. -/
def isSixtieth : List Char → Bool
  | [a] => a.isDigit
  | [a, b] => a.isDigit && a.toNat ≤ 53 && b.isDigit
  | _ => false

/-- Whether a text is a row of at least two parts with colons between them, of which all but the
first write a number below sixty. -/
def isSexagesimal (firstAllowed : List Char → Bool) (cs : List Char) : Bool :=
  match Text.splitList ':' cs with
  | first :: second :: rest => firstAllowed first && (second :: rest).all isSixtieth
  | _ => false

/-- Whether a text starts with neither zero nor anything else than a digit, and goes on with
digits and underscores. -/
def isLeadingRun (cs : List Char) : Bool :=
  isDigitRun cs && cs.head? != some '0'

/-- Whether a text has the spelling of a whole number. -/
def isInteger (cs : List Char) : Bool :=
  let body := withoutSign cs
  let based (allowed : Char → Bool) (digits : List Char) : Bool :=
    !digits.isEmpty && digits.all fun c ↦ allowed c || c == '_'
  match body with
  | '0' :: 'b' :: digits => based (fun c ↦ c == '0' || c == '1') digits
  | '0' :: 'x' :: digits =>
    based (fun c ↦ c.isDigit || ('a' ≤ c && c ≤ 'f') || ('A' ≤ c && c ≤ 'F')) digits
  | ['0'] => true
  | '0' :: digits => based (fun c ↦ '0' ≤ c && c ≤ '7') digits
  | _ => isLeadingRun body || isSexagesimal isLeadingRun body

/-- Whether a text is an exponent with a sign, or empty. -/
def isSignedExponent : List Char → Bool
  | [] => true
  | mark :: sign :: digits =>
    (mark == 'e' || mark == 'E') && (sign == '+' || sign == '-') && !digits.isEmpty &&
      digits.all Char.isDigit
  | _ => false

/-- Whether a text has the spelling of a decimal number. -/
def isDecimal (cs : List Char) : Bool :=
  let body := withoutSign cs
  let whole := body.takeWhile (· != '.')
  match body.dropWhile (· != '.') with
  | '.' :: fraction =>
    let digits := fraction.takeWhile fun c ↦ c.isDigit || c == '_'
    let rest := fraction.drop digits.length
    let signless := body.length == cs.length
    if whole.isEmpty then
      (signless && isDigitRun digits && isSignedExponent rest) ||
        isWord ["inf"] fraction ||
        (signless && ["nan", "NaN", "NAN"].contains (String.ofList fraction))
    else
      (isDigitRun whole && isSignedExponent rest) ||
        (isSexagesimal isDigitRun whole && rest.isEmpty)
  | _ => false

/-- The tag of a scalar by its spelling. A line feed at its end does not count. -/
def ofSpelling (text : String) : Tag :=
  let cs := Text.withoutFinalBreak text.toList
  if isWord (booleanWords.map Prod.fst) cs then boolean
  else if isDecimal cs then decimal
  else if isInteger cs then integer
  else if cs == ['<', '<'] then mergeKey
  else if cs == [] || cs == ['~'] || isWord ["null"] cs then null
  else if Moment.hasSpelling cs then moment
  else if cs == ['='] then defaultKey
  else Tag.text

end Tag

end Candlestick.Yaml

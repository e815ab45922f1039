import TypeGraph.Text.Line
import TypeGraph.Text.Word

/-!
# Literal values

A handler in console markup takes literal values: numbers, texts, octets, the constants `True`,
`False`, `None` and `...`, tuples in parentheses, and sets and mappings in braces.  A value is only
checked here: whether a text is one is all that the markup asks.

Inside brackets a line may end anywhere; outside, only comments may follow the end of a line.  The
elements of a set and the keys of a mapping must themselves be neither sets nor mappings.
-/

namespace TypeGraph.Console.Literal

inductive Token where
  | opening (brace : Bool)
  | closing (brace : Bool)
  | comma
  | colon
  | sign
  | number (imaginary : Bool)
  | text (octets : Bool)
  | constant
  /-- The name of the empty set's constructor. -/
  | set
  | lineEnd
deriving DecidableEq, Repr

def digitRun (isDigit : Char → Bool) : List Char → List Char × List Char
  | [] => ([], [])
  | '_' :: c :: rest =>
    if isDigit c then
      let (run, rest) := digitRun isDigit rest
      (c :: run, rest)
    else ([], '_' :: c :: rest)
  | c :: rest =>
    if isDigit c then
      let (run, rest) := digitRun isDigit rest
      (c :: run, rest)
    else ([], c :: rest)

def digits (s : List Char) : List Char × List Char :=
  if s.head?.any Char.isDigit then digitRun Char.isDigit s else ([], s)

def isBaseDigit (mark c : Char) : Bool :=
  match mark.toLower with
  | 'x' => c.isDigit || ('a' ≤ c.toLower && c.toLower ≤ 'f')
  | 'o' => '0' ≤ c && c ≤ '7'
  | 'b' => c = '0' || c = '1'
  | _ => false

def exponent? : List Char → Option (List Char)
  | e :: rest =>
    if e.toLower = 'e' then
      let rest := match rest with
        | '+' :: rest => rest
        | '-' :: rest => rest
        | rest => rest
      match digits rest with
      | ([], _) => none
      | (_, rest) => some rest
    else none
  | [] => none

/-- Reads a decimal number: digits, a fraction, an exponent and the mark of an imaginary number, of
which the digits of one part must be there.  An integer has no zero in front of other digits. -/
def decimal? (s : List Char) : Option (Token × List Char) :=
  let (whole, rest) := digits s
  let (fraction, isFloat, rest) := match rest with
    | '.' :: rest =>
      let (fraction, rest) := digits rest
      (fraction, true, rest)
    | rest => ([], false, rest)
  if whole = [] ∧ fraction = [] then none
  else
    let (isFloat, rest) := match exponent? rest with
      | some rest => (true, rest)
      | none => (isFloat, rest)
    match rest with
    | c :: after =>
      if c.toLower = 'j' then some (.number true, after)
      else if !isFloat && whole.head? = some '0' && whole.any (· ≠ '0') then none
      else some (.number false, c :: after)
    | [] =>
      if !isFloat && whole.head? = some '0' && whole.any (· ≠ '0') then none
      else some (.number false, [])

def number? (s : List Char) : Option (Token × List Char) :=
  match s with
  | '0' :: mark :: rest =>
    if mark.toLower = 'x' || mark.toLower = 'o' || mark.toLower = 'b' then
      match digitRun (isBaseDigit mark) rest with
      | ([], _) => none
      | (_, rest) => some (.number false, rest)
    else decimal? s
  | s => decimal? s

structure Mark where
  octets : Bool := false
  raw : Bool := false

/-- The marks of texts; letter case does not count. -/
def mark? (letters : List Char) : Option Mark :=
  match String.ofList (letters.map Char.toLower) with
  | "" | "u" => some {}
  | "r" => some { raw := true }
  | "b" => some { octets := true }
  | "br" | "rb" => some { octets := true, raw := true }
  | _ => none

/-- The content of a text behind its opening quotes, last character first, and the rest behind its
closing ones.  A backslash takes the next character with it. -/
def quotedContent? (quote : Char) (long : Bool) (done : List Char) :
    List Char → Option (List Char × List Char)
  | [] => none
  | '\\' :: c :: rest => quotedContent? quote long (c :: '\\' :: done) rest
  | c :: rest =>
    if c = '\\' ∨ (c = '\n' ∧ !long) then none
    else if c = quote then
      if !long then some (done, rest)
      else
        match rest with
        | q :: r :: rest' =>
          if q = quote ∧ r = quote then some (done, rest')
          else quotedContent? quote long (c :: done) (q :: r :: rest')
        | _ => none
    else quotedContent? quote long (c :: done) rest

def startsHex (count : Nat) (s : List Char) : Bool :=
  (s.take count).length = count && (s.take count).all (isBaseDigit 'x')

def hexNumber (s : List Char) : Nat :=
  s.foldl (fun n c => 16 * n + (if c.isDigit then c.toNat - 0x30 else c.toLower.toNat - 0x57)) 0

def maxCodePoint : Nat := 0x10FFFF

/-- Whether every escape that needs digits or a name has them. -/
def areEscapesWhole (octets : Bool) : List Char → Bool
  | [] => true
  | '\\' :: c :: rest =>
    (match c with
      | 'x' => startsHex 2 rest
      | 'u' => octets || startsHex 4 rest
      | 'U' => octets || (startsHex 8 rest && hexNumber (rest.take 8) ≤ maxCodePoint)
      | 'N' => octets || (rest.head? = some '\x7b' && rest.contains '\x7d')
      | _ => true) && areEscapesWhole octets rest
  | _ :: rest => areEscapesWhole octets rest

/-- Reads a text behind its mark.  Octets are written in ASCII. -/
def text? (mark : Mark) (s : List Char) : Option (Token × List Char) :=
  let found := match s with
    | q :: '\'' :: '\'' :: rest =>
      if q = '\'' then quotedContent? q true [] rest else quotedContent? q false [] (s.drop 1)
    | q :: '"' :: '"' :: rest =>
      if q = '"' then quotedContent? q true [] rest else quotedContent? q false [] (s.drop 1)
    | q :: rest => quotedContent? q false [] rest
    | [] => none
  found.bind fun (content, rest) =>
    if (!mark.octets || content.all (·.toNat < 0x80)) &&
        (mark.raw || areEscapesWhole mark.octets content.reverse) then
      some (.text mark.octets, rest)
    else none

/-- Reads a word: a constant, the name of the empty set's constructor or the mark of a text. -/
def word? (s : List Char) : Option (Token × List Char) :=
  let name := s.takeWhile Text.isWord
  let rest := s.dropWhile Text.isWord
  if rest.head?.any fun c => c = '"' || c = '\'' then (mark? name).bind (text? · rest)
  else
    match String.ofList name with
    | "True" | "False" | "None" => some (.constant, rest)
    | "set" => some (.set, rest)
    | _ => none

def token? : List Char → Option (Token × List Char)
  | '(' :: rest => some (.opening false, rest)
  | '\x7b' :: rest => some (.opening true, rest)
  | ')' :: rest => some (.closing false, rest)
  | '\x7d' :: rest => some (.closing true, rest)
  | ',' :: rest => some (.comma, rest)
  | ':' :: rest => some (.colon, rest)
  | '+' :: rest => some (.sign, rest)
  | '-' :: rest => some (.sign, rest)
  | '.' :: '.' :: '.' :: rest => some (.constant, rest)
  | c :: rest => if c.isDigit || c = '.' then number? (c :: rest) else word? (c :: rest)
  | [] => none

def maxDepth : Nat := 200

/-- The depth of brackets behind a symbol; more closing brackets than opening ones are an error. -/
def depthAfter? (depth : Nat) : Token → Option Nat
  | .opening _ => if depth < maxDepth then some (depth + 1) else none
  | .closing _ => if depth = 0 then none else some (depth - 1)
  | _ => some depth

/-- The symbols of a text.  Each step takes at least one character, so that the length of the text
is fuel enough. -/
def tokens? : (fuel : Nat) → (depth : Nat) → List Char → Option (List Token)
  | 0, _, s => if s = [] then some [] else none
  | fuel + 1, depth, s =>
    match s with
    | [] => some []
    | '\\' :: '\n' :: rest => if rest = [] then none else tokens? fuel depth rest
    | '\n' :: rest =>
      if depth = 0 then (tokens? fuel depth rest).map (.lineEnd :: ·) else tokens? fuel depth rest
    | '#' :: rest => tokens? fuel depth (rest.dropWhile (· ≠ '\n'))
    | c :: rest =>
      if c = ' ' || c = '\t' || c = '\x0c' then tokens? fuel depth rest
      else do
        let (token, rest) ← token? (c :: rest)
        let depth ← depthAfter? depth token
        let tokens ← tokens? fuel depth rest
        return token :: tokens

inductive Form where
  | number (imaginary signed : Bool)
  /-- A finished value, and whether it may be an element of a set. -/
  | value (element : Bool)
  /-- The name of the empty set's constructor, which is no value. -/
  | set
deriving DecidableEq, Repr

/-- Whether what has been read may be an element of a set; the constructor's name is no value. -/
def Form.element? : Form → Option Bool
  | .number _ _ => some true
  | .value element => some element
  | .set => none

/-- Whether all of some forms may be elements of a set, unless one of them is no value. -/
def areElements? (forms : List Form) : Option Bool := (forms.mapM Form.element?).map (·.all id)

def Form.signed? : Form → Option Form
  | .number imaginary false => some (.number imaginary true)
  | _ => none

/-- A sum of two numbers; it has to be that of a real and an unsigned imaginary one. -/
def Form.sum? : Form → Form → Option Form
  | .number false _, .number true false => some (.value true)
  | _, _ => none

/-- The symbols behind a run of texts of one kind. -/
def dropTexts? (octets : Bool) : List Token → Option (List Token)
  | .text o :: rest => if o = octets then dropTexts? octets rest else none
  | rest => some rest

mutual

def atom? : (fuel : Nat) → List Token → Option (Form × List Token)
  | 0, _ => none
  | fuel + 1, tokens =>
    match tokens with
    | .number imaginary :: rest => some (.number imaginary false, rest)
    | .text octets :: rest => (dropTexts? octets rest).map (.value true, ·)
    | .constant :: rest => some (.value true, rest)
    | .set :: rest => some (.set, rest)
    | .opening false :: .closing false :: rest => some (.value true, rest)
    | .opening false :: rest => do
      let (forms, comma, rest) ← values? fuel rest
      match forms, comma, rest with
      | [form], false, .closing false :: rest => return (form, rest)
      | forms, _, .closing false :: rest => return (.value (← areElements? forms), rest)
      | _, _, _ => none
    | .opening true :: .closing true :: rest => some (.value false, rest)
    | .opening true :: rest => do
      match ← pairs? fuel rest with
      | .closing true :: rest => return (.value false, rest)
      | _ => none
    | _ => none

/-- Reads an atom, which the brackets of a call without arguments may follow if it is the name of
the empty set's constructor. -/
def call? : (fuel : Nat) → List Token → Option (Form × List Token)
  | 0, _ => none
  | fuel + 1, tokens => do
    match ← atom? fuel tokens with
    | (.set, .opening false :: .closing false :: rest) => return (.value false, rest)
    | (form, rest) => return (form, rest)

def term? : (fuel : Nat) → List Token → Option (Form × List Token)
  | 0, _ => none
  | fuel + 1, .sign :: rest => do
    let (form, rest) ← call? fuel rest
    return (← form.signed?, rest)
  | fuel + 1, tokens => call? fuel tokens

def value? : (fuel : Nat) → List Token → Option (Form × List Token)
  | 0, _ => none
  | fuel + 1, tokens => do
    let (form, rest) ← term? fuel tokens
    match rest with
    | .sign :: rest =>
      let (second, rest) ← call? fuel rest
      return (← form.sum? second, rest)
    | rest => return (form, rest)

/-- Reads values between commas, of which one may stand behind the last; says whether there was a
comma. -/
def values? : (fuel : Nat) → List Token → Option (List Form × Bool × List Token)
  | 0, _ => none
  | fuel + 1, tokens => do
    let (form, rest) ← value? fuel tokens
    match rest with
    | .comma :: rest =>
      match values? fuel rest with
      | some (forms, _, rest) => return (form :: forms, true, rest)
      | none => return ([form], true, rest)
    | rest => return ([form], false, rest)

/-- Reads the elements of a set or the entries of a mapping and gives the symbols behind them. -/
def pairs? : (fuel : Nat) → List Token → Option (List Token)
  | 0, _ => none
  | fuel + 1, tokens => do
    let (form, rest) ← value? fuel tokens
    if (← form.element?) then
      match rest with
      | .colon :: rest =>
        let (value, rest) ← value? fuel rest
        let _ ← value.element?
        entries? fuel rest
      | rest => elements? fuel rest
    else none

def elements? : (fuel : Nat) → List Token → Option (List Token)
  | 0, _ => none
  | fuel + 1, tokens =>
    match tokens with
    | .comma :: .closing true :: rest => some (.closing true :: rest)
    | .comma :: rest => do
      let (form, rest) ← value? fuel rest
      if (← form.element?) then elements? fuel rest else none
    | rest => some rest

def entries? : (fuel : Nat) → List Token → Option (List Token)
  | 0, _ => none
  | fuel + 1, tokens =>
    match tokens with
    | .comma :: .closing true :: rest => some (.closing true :: rest)
    | .comma :: rest => do
      let (form, rest) ← value? fuel rest
      match rest with
      | .colon :: rest =>
        let (value, rest) ← value? fuel rest
        let _ ← value.element?
        if (← form.element?) then entries? fuel rest else none
      | _ => none
    | rest => some rest

end

/-- The text behind the lines in front that hold no symbol.  The first line with one must not be
indented; a form feed takes blanks in front of it back. -/
def dropBlankLines? : (fuel : Nat) → (indented : Bool) → List Char → Option (List Char)
  | 0, _, _ => none
  | fuel + 1, indented, s =>
    match s with
    | '\n' :: rest => dropBlankLines? fuel false rest
    | '#' :: rest => dropBlankLines? fuel false (rest.dropWhile (· ≠ '\n'))
    | '\\' :: '\n' :: rest => dropBlankLines? fuel indented rest
    | '\x0c' :: rest => dropBlankLines? fuel false rest
    | ' ' :: rest => dropBlankLines? fuel true rest
    | '\t' :: rest => dropBlankLines? fuel true rest
    | s => if indented then none else some s

/-- The number of steps that reading some symbols may take: a few for each of them. -/
def fuelFor (tokens : List Token) : Nat := 8 * tokens.length + 8

/-- Whether a text is a literal value.  Several values between commas are a tuple. -/
def isLiteral (s : List Char) : Bool :=
  let s := Text.unifyNewlines s
  (do
    let s ← dropBlankLines? (s.length + 1) false s
    let tokens ← tokens? (s.length + 1) 0 s
    let (forms, _, rest) ← values? (fuelFor tokens) tokens
    let _ ← areElements? forms
    if rest.all (· = Token.lineEnd) then some () else none).isSome

end TypeGraph.Console.Literal

/-! How clauses are spelled: an optional sign, a body, and the white space behind it. -/

namespace BooleanSearch.Query

/-- The six characters that separate clauses; other blanks belong to terms. -/
def isSpace (c : Char) : Bool :=
  c == ' ' || c == '\t' || c == '\n' || c == '\r' || c == '\x0b' || c == '\x0c'

/-- Characters of terms: neither white space nor quotes. -/
def isTermChar (c : Char) : Bool :=
  !isSpace c && c != '"'

/-- The signs that may stand in front of a clause. -/
inductive Sign
  | plus
  | minus
deriving Repr, DecidableEq

/-- The character of a sign. -/
def Sign.symbol : Sign → Char
  | .plus => '+'
  | .minus => '-'

/-- The sign that a character is. -/
def Sign.ofChar? : Char → Option Sign
  | '+' => some .plus
  | '-' => some .minus
  | _ => none

/-- The body of a clause as it is spelled. -/
inductive Body
  | phrase (inner : List Char)
  | decade (digits : List Char) (suffixed : Bool)
  | term (run : List Char)
deriving Repr, DecidableEq

/-- The characters of a body: phrases stand in quotes, decades may carry a suffix. -/
def Body.text : Body → List Char
  | .phrase inner => '"' :: inner ++ ['"']
  | .decade digits suffixed => digits ++ if suffixed then ['s'] else []
  | .term run => run

/-- A clause as it is spelled. -/
structure Spelling where
  /-- The sign bound to the clause. -/
  sign : Option Sign
  /-- The body of the clause. -/
  body : Body
  /-- The white space between the clause and the next one. -/
  space : List Char
deriving Repr, DecidableEq

/-- The characters of a sign, none where there is no sign. -/
def signText (sign : Option Sign) : List Char :=
  (sign.map Sign.symbol).toList

/-- The characters of a clause and of the white space behind it. -/
def Spelling.text (spelling : Spelling) : List Char :=
  signText spelling.sign ++ spelling.body.text ++ spelling.space

/-- Whether two digits open a year of the twentieth or the twenty-first century. -/
def isCentury (a b : Char) : Bool :=
  (a == '1' && b == '9') || (a == '2' && b == '0')

/-- The decade that a run of term characters has the shape of. -/
def decadeOf? (run : List Char) : Option Body :=
  match run with
  | a :: b :: c :: '0' :: suffix =>
    if isCentury a b && c.isDigit then
      match suffix with
      | [] => some (.decade [a, b, c, '0'] false)
      | ['s'] => some (.decade [a, b, c, '0'] true)
      | _ => none
    else none
  | _ => none

/-- The maximal runs without white space, in order. -/
def terms : List Char → List (List Char)
  | [] => []
  | c :: rest =>
    if isSpace c then terms rest
    else
      match rest.head?, terms rest with
      -- A character joins the term that starts directly behind it.
      | some next, term :: behind =>
        if isSpace next then [c] :: term :: behind else (c :: term) :: behind
      | _, behind => [c] :: behind

end BooleanSearch.Query

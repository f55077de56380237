/-! Control sequences, by which a text would tell a terminal how to show it.

It is not the program itself that leaves them out, but the command-line library that it writes
through, where the output goes to no terminal. Which sequences count is up to that library, and
its versions may differ: here a sequence starts with an escape and a bracket, and is cut out in one
pass from the start. -/

namespace BooleanSearch.Text

/-- Characters that tell a control sequence apart from others of its kind. -/
def isParameter (c : Char) : Bool := '0' ≤ c && c ≤ '?'

/-- Characters that may stand between the parameters of a control sequence and its last one. -/
def isIntermediate (c : Char) : Bool := ' ' ≤ c && c ≤ '/'

/-- Characters that end a control sequence. -/
def isFinal (c : Char) : Bool := '@' ≤ c && c ≤ '~'

/-- The length of the control sequence at the start of a text, or zero if there is none. -/
def controlLength : List Char → Nat
  | '\x1b' :: '[' :: cs =>
    let parameters := cs.takeWhile isParameter
    let behind := cs.drop parameters.length
    let between := behind.takeWhile isIntermediate
    match behind.drop between.length with
    | c :: _ => if isFinal c then parameters.length + between.length + 3 else 0
    | [] => 0
  | _ => 0

/-- A text without so many characters at its start, and without control sequences behind them. -/
def dropControls (skipped : Nat) : List Char → List Char
  | [] => []
  | c :: rest =>
    match skipped with
    | skipped + 1 => dropControls skipped rest
    | 0 =>
      match controlLength (c :: rest) with
      | 0 => c :: dropControls 0 rest
      | length + 1 => dropControls length rest

/-- A text as the command-line library writes it: without its control sequences. What is left may
look like one and stays. -/
def withoutControls (text : String) : String :=
  String.ofList (dropControls 0 text.toList)

end BooleanSearch.Text

import ProviderDocs.Shell.Command

/-!
# Reading shell scripts
-/

namespace ProviderDocs.Shell

/-- The rest of a script and the number of its first line. -/
structure Source where
  rest : Bytes
  line : Nat
  /-- Lines of documents that were taken out of the lines to come. -/
  pendingLines : Nat

/-- Fails at a syntax error. -/
abbrev Parser := StateT Source Option

namespace Parser

def rest : Parser Bytes := do return (← get).rest

def peek? : Parser (Option Char) := do return (← get).rest.head?

/-- Moves over characters and counts their lines. -/
def skip (count : Nat) : Parser Unit := modify fun source ↦
  let lines := (source.rest.take count).count '\n'
  { rest := source.rest.drop count
    line := source.line + lines + if lines = 0 then 0 else source.pendingLines
    pendingLines := if lines = 0 then source.pendingLines else 0 }

def startsWith (text : String) : Parser Bool := do
  return text.toList.isPrefixOf (← rest)

def takeWhile (inClass : Char → Bool) : Parser Bytes := do
  let taken := (← rest).takeWhile inClass
  skip taken.length
  return taken

/-! ## Characters -/

def isBlank (c : Char) : Bool := c = ' ' || c = '\t'

/-- Characters that end a word. -/
def isMeta (c : Char) : Bool := isBlank c || "\n;&|<>()".toList.contains c

def isNameStart (c : Char) : Bool := c.isAlpha || c = '_'

def isNameChar (c : Char) : Bool := c.isAlphanum || c = '_'

/-- Parameters with names of one sign. -/
def isSpecial (c : Char) : Bool := c.isDigit || "@*#?-$!".toList.contains c

/-- Skips blanks, continued lines and a comment. -/
def skipBlanks : Nat → Parser Unit
  | 0 => pure ()
  | fuel + 1 => do
    match ← rest with
    | '\\' :: '\n' :: _ => skip 2; skipBlanks fuel
    | '#' :: _ => let _ ← takeWhile (· != '\n')
    | c :: _ => if isBlank c then skip 1; skipBlanks fuel
    | [] => pure ()

/-! ## Enclosed texts -/

/-- The text up to a quote, which is dropped. -/
def upTo (quote : Char) (text : Bytes) : Option (Bytes × Bytes) :=
  match text.dropWhile (· != quote) with
  | _ :: rest => some (text.takeWhile (· != quote), rest)
  | [] => none

/-- The text up to the parenthesis that closes it; quoted ones do not count. -/
def enclosed (depth : Nat) (isQuoted : Bool) : Bytes → Option Bytes
  | [] => none
  | '\\' :: c :: rest => (enclosed depth isQuoted rest).map ('\\' :: c :: ·)
  | '"' :: rest => (enclosed depth (!isQuoted) rest).map ('"' :: ·)
  | '\'' :: rest =>
    if isQuoted then (enclosed depth isQuoted rest).map ('\'' :: ·)
    else (singleQuoted depth rest).map ('\'' :: ·)
  | '(' :: rest => (enclosed (depth + 1) isQuoted rest).map ('(' :: ·)
  | ')' :: rest =>
    match depth with
    | 0 => some []
    | depth + 1 => (enclosed depth isQuoted rest).map (')' :: ·)
  | c :: rest => (enclosed depth isQuoted rest).map (c :: ·)
where
  singleQuoted (depth : Nat) : Bytes → Option Bytes
    | [] => none
    | '\'' :: rest => (enclosed depth false rest).map ('\'' :: ·)
    | c :: rest => (singleQuoted depth rest).map (c :: ·)

/-- A text between backquotes, where a backslash hides only some characters. -/
def backquoted : Bytes → Option (Bytes × Nat)
  | [] => none
  | '`' :: _ => some ([], 1)
  | '\\' :: c :: rest =>
    if c = '`' || c = '\\' || c = '$' then
      (backquoted rest).map fun (text, count) ↦ (c :: text, count + 2)
    else (backquoted rest).map fun (text, count) ↦ ('\\' :: c :: text, count + 2)
  | c :: rest => (backquoted rest).map fun (text, count) ↦ (c :: text, count + 1)

/-! ## Words -/

/-- The operation that signs between a name and a word stand for. -/
def operation? : Bytes → Option (Operation × Bool × Nat)
  | ':' :: '-' :: _ => some (.default, true, 2)
  | ':' :: '=' :: _ => some (.assign, true, 2)
  | ':' :: '+' :: _ => some (.alternative, true, 2)
  | ':' :: '?' :: _ => some (.demand, true, 2)
  | '-' :: _ => some (.default, false, 1)
  | '=' :: _ => some (.assign, false, 1)
  | '+' :: _ => some (.alternative, false, 1)
  | '?' :: _ => some (.demand, false, 1)
  | '#' :: '#' :: _ => some (.dropFront true, false, 2)
  | '#' :: _ => some (.dropFront false, false, 1)
  | '%' :: '%' :: _ => some (.dropEnd true, false, 2)
  | '%' :: _ => some (.dropEnd false, false, 1)
  | _ => none

/-- The name of a parameter, which may be a number in braces. -/
def parameterName (inBraces : Bool) : Parser String := do
  match ← rest with
  | c :: _ =>
    if isNameStart c then return String.ofList (← takeWhile isNameChar)
    else if c.isDigit && inBraces then return String.ofList (← takeWhile Char.isDigit)
    else if isSpecial c then skip 1; return String.singleton c
    else failure
  | [] => failure

mutual

/-- Reads what follows a dollar sign. -/
def dollar (isQuoted : Bool) : Nat → Parser Part
  | 0 => failure
  | fuel + 1 => do
    match ← rest with
    | '(' :: '(' :: text =>
      let inner ← (enclosed 0 false text : Option Bytes)
      if (text.drop (inner.length + 1)).head? = some ')' then
        skip (inner.length + 4)
        let expression ← (inside inner fuel : Option Word)
        return .arithmetic expression isQuoted
      else commandOutput ('(' :: text) isQuoted
    | '(' :: text => commandOutput text isQuoted
    | '\x7b' :: '#' :: c :: _ =>
      if c = '\x7d' then
        skip 3
        return .parameter "#" isQuoted
      else
        skip 2
        let name ← parameterName true
        closing
        return .modified name .length false [] isQuoted
    | '\x7b' :: _ =>
      skip 1
      let name ← parameterName true
      match operation? (← rest) with
      | none => closing; return .parameter name isQuoted
      | some (operation, orEmpty, count) =>
        skip count
        let word ← parts (fun c ↦ c = '\x7d') (isQuoted && !operation.takesPattern) fuel
        closing
        return .modified name operation orEmpty word isQuoted
    | c :: _ =>
      if isNameStart c || isSpecial c then return .parameter (← parameterName false) isQuoted
      else return .text ['$'] isQuoted
    | [] => return .text ['$'] isQuoted
where
  commandOutput (text : Bytes) (isQuoted : Bool) : Parser Part := do
    let inner ← (enclosed 0 false text : Option Bytes)
    skip (inner.length + 2)
    return .output inner isQuoted
  closing : Parser Unit := do
    if (← peek?) = some '\x7d' then skip 1 else failure

/-- Reads the parts of a text that is on its own, as in double quotes. -/
def inside (text : Bytes) : Nat → Option Word
  | 0 => none
  | fuel + 1 => (doubleQuoted false fuel).run' ⟨text, 0, 0⟩

/-- Reads up to a double quote, or to the end of the text when there is none to `expect`. -/
def doubleQuoted (expect : Bool) : Nat → Parser Word
  | 0 => failure
  | fuel + 1 => do
    match ← rest with
    | [] => if expect then failure else return []
    | '"' :: _ =>
      skip 1
      if expect then return [] else return .text ['"'] true :: (← doubleQuoted expect fuel)
    | '\\' :: '\n' :: _ => skip 2; doubleQuoted expect fuel
    | '\\' :: c :: _ =>
      skip 2
      let text := if c = '$' || c = '`' || c = '\\' || (expect && c = '"') then [c] else ['\\', c]
      return .text text true :: (← doubleQuoted expect fuel)
    | '$' :: _ => skip 1; let part ← dollar true fuel; return part :: (← doubleQuoted expect fuel)
    | '`' :: text =>
      let (script, count) ← (backquoted text : Option (Bytes × Nat))
      skip (count + 1)
      return .output script true :: (← doubleQuoted expect fuel)
    | c :: _ => skip 1; return .text [c] true :: (← doubleQuoted expect fuel)

/-- Reads the parts of a word up to a character that ends it. -/
def parts (ends : Char → Bool) (isQuoted : Bool) : Nat → Parser Word
  | 0 => failure
  | fuel + 1 => do
    match ← rest with
    | [] => return []
    | '\\' :: '\n' :: _ => skip 2; parts ends isQuoted fuel
    | '\\' :: c :: _ => skip 2; return .text [c] true :: (← parts ends isQuoted fuel)
    | '\'' :: text =>
      if isQuoted then skip 1; return .text ['\''] true :: (← parts ends isQuoted fuel)
      else
        let (quoted, _) ← (upTo '\'' text : Option (Bytes × Bytes))
        skip (quoted.length + 2)
        return .text quoted true :: (← parts ends isQuoted fuel)
    | '"' :: _ =>
      skip 1
      let quoted ← doubleQuoted true fuel
      return .text [] true :: quoted ++ (← parts ends isQuoted fuel)
    | '$' :: _ =>
      skip 1
      let part ← dollar isQuoted fuel
      return part :: (← parts ends isQuoted fuel)
    | '`' :: text =>
      let (script, count) ← (backquoted text : Option (Bytes × Nat))
      skip (count + 1)
      return .output script isQuoted :: (← parts ends isQuoted fuel)
    | c :: _ =>
      if ends c then return []
      else skip 1; return .text [c] isQuoted :: (← parts ends isQuoted fuel)

end

def word (fuel : Nat) : Parser Word := parts isMeta false fuel

/-- The text of a word without expansions, and whether some of it is quoted. -/
def literal? (word : Word) : Option (Bytes × Bool) :=
  word.foldrM (fun part (text, isQuoted) ↦
    match part with
    | .text front quoted => some (front ++ text, quoted || isQuoted)
    | _ => none) ([], false)

/-! ## Documents -/

/-- The lines of a document up to its end mark, and what follows them. -/
def documentLines (stripTabs : Bool) (mark : Bytes) : List Bytes → List Bytes × List Bytes
  | [] => ([], [])
  | line :: rest =>
    let line := if stripTabs then line.dropWhile (· = '\t') else line
    if line = mark then ([], rest)
    else
      let (lines, rest) := documentLines stripTabs mark rest
      (line :: lines, rest)

/-- Takes a document out of the lines that follow the one being read. -/
def document (fuel : Nat) : Parser Word := do
  let stripTabs := (← peek?) = some '-'
  if stripTabs then skip 1
  skipBlanks fuel
  let (mark, isQuoted) ← (literal? (← word fuel) : Option (Bytes × Bool))
  let source ← get
  let current := source.rest.takeWhile (· != '\n')
  let following := (source.rest.drop (current.length + 1)).splitOn '\n'
  let (lines, rest) := documentLines stripTabs mark following
  set { source with
    rest := current ++ '\n' :: ['\n'].intercalate rest
    pendingLines := source.pendingLines + following.length - rest.length }
  let text := lines.flatMap (· ++ ['\n'])
  if isQuoted then return [.text text true] else (inside text fuel : Option Word)

/-! ## Redirections -/

/-- A number in front of a redirection, and the direction. -/
def redirectHead? (text : Bytes) : Option (Option Nat × Char × Nat) :=
  let digits := text.takeWhile Char.isDigit
  match text.drop digits.length with
  | c :: _ =>
    if c = '<' || c = '>' then
      some ((String.ofList digits).toNat?, c, digits.length + 1)
    else none
  | [] => none

def redirect? (fuel : Nat) : Parser (Option Redirect) := do
  match redirectHead? (← rest) with
  | none => return none
  | some (descriptor, direction, count) =>
    skip count
    let descriptor := descriptor.getD (if direction = '<' then 0 else 1)
    let (kind, length) := match direction, ← rest with
      | '<', '<' :: _ => (RedirectKind.document, 1)
      | '<', '&' :: _ => (.duplicate, 1)
      | '>', '>' :: _ => (.append, 1)
      | '>', '&' :: _ => (.duplicate, 1)
      | '>', '|' :: _ => (.output, 1)
      | '<', _ => (.input, 0)
      | _, _ => (.output, 0)
    skip length
    if kind = .document then return some ⟨descriptor, kind, ← document fuel⟩
    else
      skipBlanks fuel
      let target ← word fuel
      if target.isEmpty then failure else return some ⟨descriptor, kind, target⟩

def redirects : Nat → Parser (List Redirect)
  | 0 => failure
  | fuel + 1 => do
    skipBlanks fuel
    match ← redirect? fuel with
    | some redirect => return redirect :: (← redirects fuel)
    | none => return []

/-! ## Commands -/

/-- The unquoted characters ahead, up to one that ends a word. -/
def ahead : Parser String := do return String.ofList ((← rest).takeWhile (!isMeta ·))

/-- Words that end a list of commands. -/
def closers : List String := ["then", "else", "elif", "fi", "do", "done", "esac", "\x7d"]

/-- Skips blanks, line feeds and comments. -/
def skipLines : Nat → Parser Unit
  | 0 => pure ()
  | fuel + 1 => do
    skipBlanks fuel
    if (← peek?) = some '\n' then
      skip 1
      skipLines fuel

/-- Reads a certain word. -/
def expect (fuel : Nat) (text : String) : Parser Unit := do
  skipLines fuel
  if (← ahead) = text then skip text.length else failure

/-- An assignment ahead: the name before its equals sign. -/
def assignment? (text : Bytes) : Option String :=
  let name := text.takeWhile isNameChar
  if name.head?.any isNameStart && (text.drop name.length).head? = some '=' then
    some (String.ofList name)
  else none

def simpleParts (command : SimpleCommand) : Nat → Parser SimpleCommand
  | 0 => failure
  | fuel + 1 => do
    skipBlanks fuel
    if let some redirect ← redirect? fuel then
      simpleParts { command with redirects := command.redirects ++ [redirect] } fuel
    else
      let text ← rest
      match if command.words.isEmpty then assignment? text else none with
      | some name =>
        skip (name.length + 1)
        let value ← word fuel
        simpleParts { command with assignments := command.assignments ++ [(name, value)] } fuel
      | none =>
        if text.head?.all isMeta then return command
        else
          let next ← word fuel
          simpleParts { command with words := command.words ++ [next] } fuel

/-- Patterns of an arm, divided by bars, up to the parenthesis. -/
def patterns : Nat → Parser (List Word)
  | 0 => failure
  | fuel + 1 => do
    skipBlanks fuel
    let pattern ← word fuel
    skipBlanks fuel
    match ← peek? with
    | some '|' => skip 1; return pattern :: (← patterns fuel)
    | some ')' => skip 1; return [pattern]
    | _ => failure

def forWords : Nat → Parser (List Word)
  | 0 => failure
  | fuel + 1 => do
    skipBlanks fuel
    if (← peek?).all isMeta then return []
    else
      let next ← word fuel
      return next :: (← forWords fuel)

mutual

/-- Reads commands up to a word or a sign that ends a list. -/
def list : Nat → Parser Command
  | 0 => failure
  | fuel + 1 => do
    skipLines fuel
    let text ← rest
    if text.isEmpty || text.head? = some ')' || (← startsWith ";;") ||
        closers.contains (← ahead) then
      return .nothing
    else
      let first ← andOr fuel
      skipBlanks fuel
      match ← rest with
      | ';' :: ';' :: _ => return first
      | ';' :: _ | '&' :: _ | '\n' :: _ => skip 1; return .sequence first (← list fuel)
      | [] | ')' :: _ => return first
      | _ => failure

def andOr : Nat → Parser Command
  | 0 => failure
  | fuel + 1 => do
    let first ← pipeline fuel
    andOrRest first fuel

/-- Joins further commands from the left. -/
def andOrRest (first : Command) : Nat → Parser Command
  | 0 => failure
  | fuel + 1 => do
    skipBlanks fuel
    if ← startsWith "&&" then
      skip 2
      skipLines fuel
      andOrRest (.andThen first (← pipeline fuel)) fuel
    else if ← startsWith "||" then
      skip 2
      skipLines fuel
      andOrRest (.orElse first (← pipeline fuel)) fuel
    else return first

def pipeline : Nat → Parser Command
  | 0 => failure
  | fuel + 1 => do
    skipBlanks fuel
    if (← ahead) = "!" then
      skip 1
      return .not (← pipeline fuel)
    else
      let first ← command fuel
      skipBlanks fuel
      if (← peek?) = some '|' && !(← startsWith "||") then
        skip 1
        skipLines fuel
        return .pipe first (← pipeline fuel)
      else return first

def command : Nat → Parser Command
  | 0 => failure
  | fuel + 1 => do
    skipBlanks fuel
    let line := (← get).line
    if (← peek?) = some '(' then
      skip 1
      let body ← list fuel
      skipLines fuel
      if (← peek?) = some ')' then
        skip 1
        withRedirects (.subshell body) fuel
      else failure
    else
      match ← ahead with
      | "\x7b" => skip 1; let body ← list fuel; expect fuel "\x7d"; withRedirects body fuel
      | "if" => skip 2; withRedirects (← ifCommand fuel) fuel
      | "while" => skip 5; loop false fuel
      | "until" => skip 5; loop true fuel
      | "for" => skip 3; withRedirects (← forCommand fuel) fuel
      | "case" => skip 4; withRedirects (← caseCommand fuel) fuel
      | text =>
        if closers.contains text then failure
        else
          let simple ← simpleParts ⟨line, [], [], []⟩ fuel
          if ← startsWith "()" then
            let (name, _) ← (simple.words.head?.bind literal? : Option (Bytes × Bool))
            skip 2
            skipLines fuel
            return .define (String.ofList name) (← command fuel)
          else if simple.words.isEmpty && simple.assignments.isEmpty &&
              simple.redirects.isEmpty then
            failure
          else return .simple simple
where
  withRedirects (body : Command) (fuel : Nat) : Parser Command := do
    match ← redirects fuel with
    | [] => return body
    | list => return .redirected body list

def ifCommand : Nat → Parser Command
  | 0 => failure
  | fuel + 1 => do
    let condition ← list fuel
    expect fuel "then"
    let body ← list fuel
    skipLines fuel
    match ← ahead with
    | "elif" => skip 4; return .ifThen condition body (← ifCommand fuel)
    | "else" =>
      skip 4
      let otherwise ← list fuel
      expect fuel "fi"
      return .ifThen condition body otherwise
    | _ => expect fuel "fi"; return .ifThen condition body .nothing

def loop (isUntil : Bool) : Nat → Parser Command
  | 0 => failure
  | fuel + 1 => do
    let condition ← list fuel
    expect fuel "do"
    let body ← list fuel
    expect fuel "done"
    let loop := Command.whileDo condition isUntil body
    match ← redirects fuel with
    | [] => return loop
    | list => return .redirected loop list

def forCommand : Nat → Parser Command
  | 0 => failure
  | fuel + 1 => do
    skipBlanks fuel
    let name := String.ofList (← takeWhile isNameChar)
    skipLines fuel
    let words ← if (← ahead) = "in" then skip 2; some <$> forWords fuel else pure none
    skipBlanks fuel
    if (← peek?) = some ';' then skip 1
    expect fuel "do"
    let body ← list fuel
    expect fuel "done"
    return .forEach name words body

def caseCommand : Nat → Parser Command
  | 0 => failure
  | fuel + 1 => do
    skipBlanks fuel
    let subject ← word fuel
    expect fuel "in"
    let arms ← arms fuel
    return .choose subject arms

def arms : Nat → Parser (List (List Word × Command))
  | 0 => failure
  | fuel + 1 => do
    skipLines fuel
    if (← ahead) = "esac" then
      skip 4
      return []
    else
      if (← peek?) = some '(' then skip 1
      let patterns ← patterns fuel
      let body ← list fuel
      skipLines fuel
      if ← startsWith ";;" then
        skip 2
        return (patterns, body) :: (← arms fuel)
      else
        expect fuel "esac"
        return [(patterns, body)]

end

end Parser

/-- The command of a script that begins at a line, unless there is a syntax error. -/
def parse? (line : Nat) (script : Bytes) : Option Command := do
  let fuel := 4 * script.length + 16
  let (command, source) ← (do
    let command ← Parser.list fuel
    Parser.skipLines fuel
    return command : Parser Command).run ⟨script, line, 0⟩
  if source.rest.isEmpty then some command else none

end ProviderDocs.Shell

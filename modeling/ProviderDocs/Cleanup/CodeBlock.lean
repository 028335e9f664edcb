import ProviderDocs.Text.Blank
import ProviderDocs.Text.Search

/-!
# Fenced code in a text

A code block begins with three backticks anywhere and ends with the first later three backticks
after which the line ends. The blanks behind the closing fence, empty lines included, belong
to the block, but not the last line feed before further text. What lies between code blocks
is prose.
-/

namespace ProviderDocs.Cleanup

def fence : List Char := ['`', '`', '`']

/-- The blanks behind a closing fence that belong to its block, when the line ends there. -/
def closingBlanks? (text : List Char) : Option (List Char) :=
  let (blanks, rest) := Text.span Text.isBlank text
  if rest.isEmpty then some blanks
  else match (blanks.reverse.dropWhile (· != '\n')).reverse with
    | [] => none
    | upToFeed => some upToFeed.dropLast

/-- Reads up to the end of the code block that is open. -/
def blockEnd? : List Char → Option (List Char × List Char)
  | [] => none
  | c :: text =>
    let here := do
      let rest ← Text.after? fence (c :: text)
      let blanks ← closingBlanks? rest
      some (fence ++ blanks, rest.drop blanks.length)
    here.or ((blockEnd? text).map fun (block, rest) ↦ (c :: block, rest))

/-- Reads a code block: the opening fence, the rest of its line, and all up to its end. -/
def codeBlock? (text : List Char) : Option (List Char × List Char) := do
  let rest ← Text.after? fence text
  let (info, body) := Text.span (· != '\n') rest
  let (block, rest) ← blockEnd? body
  some (fence ++ info ++ block, rest)

inductive Piece where
  | prose (text : List Char)
  | code (text : List Char)
  deriving DecidableEq

/-- Cuts a text into prose and code; `before` holds the prose read so far, reversed. -/
def cutPieces (before : List Char) : List Char → List Piece
  | [] => [.prose before.reverse]
  | c :: text =>
    match codeBlock? (c :: text) with
    | none => cutPieces (c :: before) text
    | some (block, rest) =>
      if _ : rest.length ≤ text.length then
        .prose before.reverse :: .code block :: cutPieces [] rest
      else cutPieces (c :: before) text
termination_by text => text.length

def pieces (text : List Char) : List Piece := cutPieces [] text

end ProviderDocs.Cleanup

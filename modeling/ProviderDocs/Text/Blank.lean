import ProviderDocs.Text.Run

/-!
# Blank characters and trimming

A character is blank when it has the Unicode property White_Space. A line is blank when all
its characters are.
-/

namespace ProviderDocs.Text

/-- Code points with the property White_Space. -/
def blankRuns : List Run := [
  ⟨0x9, 0xD, 1⟩, ⟨0x20, 0x20, 1⟩, ⟨0x85, 0x85, 1⟩, ⟨0xA0, 0xA0, 1⟩, ⟨0x1680, 0x1680, 1⟩,
  ⟨0x2000, 0x200A, 1⟩, ⟨0x2028, 0x2029, 1⟩, ⟨0x202F, 0x202F, 1⟩, ⟨0x205F, 0x205F, 1⟩,
  ⟨0x3000, 0x3000, 1⟩]

def isBlank (c : Char) : Bool := inRuns blankRuns c

def dropBlank (text : List Char) : List Char := text.dropWhile isBlank

def dropBlankEnd (text : List Char) : List Char := (text.reverse.dropWhile isBlank).reverse

/-- The text without blank characters at either end. -/
def trim (text : List Char) : List Char := dropBlankEnd (dropBlank text)

/-- At least one blank character, with all that follow it, is read. -/
def skipBlanks1? : List Char → Option (List Char)
  | c :: rest => if isBlank c then some (dropBlank rest) else none
  | [] => none

end ProviderDocs.Text

namespace ProviderDocs

/-- A line of blank characters only, or of none. -/
def isBlankLine (line : String) : Bool := line.toList.all Text.isBlank

/-- The text without blank characters at either end. -/
def trimmed (text : String) : String := String.ofList (Text.trim text.toList)

def trimmedEnd (text : String) : String := String.ofList (Text.dropBlankEnd text.toList)

end ProviderDocs

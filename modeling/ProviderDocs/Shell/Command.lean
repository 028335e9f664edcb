/-!
# Shell commands

The syntax of the scripts that stand in for the converter. A script is text in bytes; each byte
is held as the character of the same number, so that texts in any encoding pass through.
-/

namespace ProviderDocs.Shell

/-- A text in bytes. -/
abbrev Bytes := List Char

namespace Bytes

def ofText (text : String) : Bytes := text.toUTF8.toList.map fun byte ↦ Char.ofNat byte.toNat

def ofArray (bytes : ByteArray) : Bytes := bytes.toList.map fun byte ↦ Char.ofNat byte.toNat

def toArray (bytes : Bytes) : ByteArray :=
  ⟨(bytes.map fun c ↦ UInt8.ofNat c.toNat).toArray⟩

end Bytes

/-! ## Words -/

/-- What is put in the place of a parameter. -/
inductive Operation where
  | length
  /-- The word, when the parameter is unset. -/
  | default
  /-- The same, and the parameter is set to it. -/
  | assign
  /-- The word, when the parameter is set. -/
  | alternative
  /-- A failure with the word, when the parameter is unset. -/
  | demand
  /-- The value without what the pattern matches in front. -/
  | dropFront (longest : Bool)
  | dropEnd (longest : Bool)
  deriving DecidableEq, Repr

/-- The word is a pattern, in which quotes around the parameter do not count. -/
def Operation.takesPattern : Operation → Bool
  | dropFront _ | dropEnd _ => true
  | _ => false

inductive Part where
  | text (text : Bytes) (isQuoted : Bool)
  | parameter (name : String) (isQuoted : Bool)
  /-- With `orEmpty` an empty parameter counts as unset. -/
  | modified (name : String) (operation : Operation) (orEmpty : Bool) (word : List Part)
    (isQuoted : Bool)
  /-- The output of a script. -/
  | output (script : Bytes) (isQuoted : Bool)
  | arithmetic (expression : List Part) (isQuoted : Bool)

abbrev Word := List Part

/-! ## Commands -/

inductive RedirectKind where
  | input
  | output
  | append
  /-- The word names another descriptor. -/
  | duplicate
  /-- The word is the text itself. -/
  | document
  deriving DecidableEq, Repr

structure Redirect where
  descriptor : Nat
  kind : RedirectKind
  word : Word

structure SimpleCommand where
  line : Nat
  assignments : List (String × Word)
  words : List Word
  redirects : List Redirect

inductive Command where
  | simple (command : SimpleCommand)
  /-- Does nothing. -/
  | nothing
  | sequence (first second : Command)
  | andThen (first second : Command)
  | orElse (first second : Command)
  | not (command : Command)
  | pipe (left right : Command)
  | ifThen (condition body otherwise : Command)
  | whileDo (condition : Command) (isUntil : Bool) (body : Command)
  | forEach (name : String) (words : Option (List Word)) (body : Command)
  /-- Runs the command of the first arm with a pattern that fits. -/
  | choose (word : Word) (arms : List (List Word × Command))
  /-- Runs in a copy of the shell. -/
  | subshell (command : Command)
  | redirected (command : Command) (redirects : List Redirect)
  | define (name : String) (body : Command)

instance : Inhabited Command := ⟨.nothing⟩

end ProviderDocs.Shell

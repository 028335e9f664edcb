import ProviderDocs.CommandLine.Convert
import ProviderDocs.CommandLine.Docs
import ProviderDocs.CommandLine.Types

/-!
# The program

Carries out what the arguments ask for. The status is 0 when that is done, 1 when it failed,
and 2 when the arguments cannot be understood.
-/

namespace ProviderDocs.CommandLine

def programName : String := "tfgen"

def programVersion : String := "0.4.1"

structure Outcome where
  status : Nat
  output : String
  errors : String
  files : FileTree

def usage : String := s!"Usage: {programName} [--verbose] docs|types|convert [options]\n"

def Refusal.outcome (files : FileTree) : Refusal → Outcome
  | misuse => ⟨2, "", usage, files⟩
  | help => ⟨0, usage, "", files⟩
  | version => ⟨0, s!"{programName} {programVersion}\n", "", files⟩

def Invocation.run (invocation : Invocation) (environment : Dict String) : Action Unit :=
  match invocation.command with
  | .docs command => command.run environment invocation.isVerbose
  | .types command => command.run
  | .convert command => command.run environment

/-- What becomes of an invocation. -/
def Invocation.outcome (invocation : Invocation) (environment : Dict String) (files : FileTree) :
    Outcome :=
  let (done, session) := (invocation.run environment).run.run ⟨files, "", ""⟩
  match done with
  | .ok () => ⟨0, session.output, session.errors, session.files⟩
  | .error failure => ⟨1, session.output, session.errors ++ failure.report, session.files⟩

/-- The paths in a checkout that an invocation may look at, given the files that it names. -/
def Invocation.documentPaths (invocation : Invocation) (files : FileTree) : List String :=
  match invocation.command with
  | .docs command =>
    match command.repository,
      ((Action.readProvider command.mapping command.provider).run.run ⟨files, "", ""⟩).1 with
    | some repository, .ok provider =>
      (⟨repository, provider, command.language, false⟩ : DocSource).paths command.kind command.name
    | _, _ => []
  | _ => []

/-- Runs the program on files. -/
def run (arguments : List String) (environment : Dict String) (files : FileTree) : Outcome :=
  match Invocation.parse arguments with
  | .ok invocation => invocation.outcome environment files
  | .error refusal => refusal.outcome files

end ProviderDocs.CommandLine

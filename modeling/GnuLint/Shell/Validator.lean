import GnuLint.Fix.Result
import GnuLint.Shell.Executable
import GnuLint.Shell.Script

/-!
# Judging scripts

A fixed script is judged by its syntax, either here or by a program that is given the
script on its standard input. A program that cannot be started, that fails, or that did
not take the whole script has not accepted it.

Both judge by one grammar (`GnuLint.Shell.check`), and differ in their words only. Shells
and their parsers do not agree on every script (some take a group of no commands, which is
refused here), so what is said about fixing is said for any `GnuLint.Validator`.
-/

namespace GnuLint.Validator

/-- How many bytes a program is sent that it need not read. -/
def pipeCapacity : Nat := 65536

/-- **The judgement by syntax.** -/
def structural : Validator := fun script =>
  (Shell.check script).mapError fun e => ⟨e.message⟩

/-- The judgement of a program that was started. -/
def byBehavior (name : String) (behavior : Executable.Behavior) : Validator := fun script =>
  match behavior with
  | .checks => (Shell.check script).mapError fun e => ⟨"bash syntax error: " ++ e.message⟩
  | .reads => .ok ()
  | .ignores false => .error ⟨"bash syntax error: "⟩
  | .ignores true =>
    if Text.byteLength script ≤ pipeCapacity then .ok ()
    else
      .error ⟨"could not send script to " ++ name ++ ": Broken pipe (os error 32)"⟩

/-- **The judgement of a program**, given what it does or why it cannot be started. -/
def byProgram (command : Path) (started : Except FileError Executable.Behavior) : Validator :=
  match started with
  | .error e => fun _ => .error ⟨"could not run " ++ command.toString ++ ": " ++ e.message⟩
  | .ok behavior => byBehavior command.toString behavior

end GnuLint.Validator

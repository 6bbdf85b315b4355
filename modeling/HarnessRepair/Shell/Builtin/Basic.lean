import HarnessRepair.Shell.Action
import HarnessRepair.Shell.Condition

/-!
# Commands of the shell

A command of the shell gives a status.  What it writes goes to the output when it ends,
behind all that it has told of.

## Main definitions

* `Builtin` — a command of the shell.
* `say`, `flushSaid` — what it writes.
* `readFlags` — the options among its arguments.
* `quotedText` — a text as a shell reads it back.
-/

namespace HarnessRepair.Shell

open Shell.Action

/-- A command of the shell: a status for its arguments. -/
abbrev Builtin := List String → Action Nat

namespace Action

/-- Writes a text when the command ends. -/
def say (text : String) : Action Unit :=
  onProcess fun p => if text.isEmpty then p else { p with said := text :: p.said }

/-- Writes a line when the command ends. -/
def sayLine (text : String) : Action Unit := say (text ++ "\n")

/-- Writes what a command has said; false if that is not possible. -/
def flushSaid : Action Bool := do
  let s ← get
  let text := String.join s.process.said.reverse
  if text.isEmpty then return true
  modify fun s => (s.onProcess fun p => { p with said := [] }).writeTo 1 (Text.toBytes text)
  return s.canWrite 1

/-- Tells of something without anything in front. -/
def announce (text : String) : Action Unit := modify fun s => s.complain text

/-- The options in the letters behind a dash, and whether the next argument is used. -/
def flagsIn (allowed valued : String) (next : Option String) :
    List Char → Action (List (Char × String) × Bool)
  | [] => return ([], false)
  | c :: rest => do
    if valued.toList.contains c then
      if !rest.isEmpty then return ([(c, String.ofList rest)], false)
      match next with
      | some value => return ([(c, value)], true)
      | none => raise ("No arg for -" ++ String.singleton c ++ " option")
    if !allowed.toList.contains c then raise ("Illegal option -" ++ String.singleton c)
    let (more, used) ← flagsIn allowed valued next rest
    return ((c, "") :: more, used)

/-- The options in front of some arguments, and the other arguments. -/
def readFlags (allowed valued : String) : Nat → List String →
    Action (List (Char × String) × List String)
  | 0, args => return ([], args)
  | _, [] => return ([], [])
  | fuel + 1, arg :: rest =>
    match arg.toList with
    | ['-', '-'] => return ([], rest)
    | '-' :: c :: cs => do
      let (here, used) ← flagsIn allowed valued rest.head? (c :: cs)
      let (more, operands) ← readFlags allowed valued fuel (if used then rest.drop 1 else rest)
      return (here ++ more, operands)
    | _ => return ([], arg :: rest)

/-- The options in front of some arguments, and the other arguments. -/
def flags (allowed valued : String) (args : List String) :
    Action (List (Char × String) × List String) :=
  readFlags allowed valued (args.length + 1) args

/-- The arguments of a command that knows no options. -/
def plainArguments (args : List String) : Action (List String) := do
  return (← flags "" "" args).2

/-- The number that an argument writes. -/
def number (s : String) : Action Nat :=
  match wholeInteger? s with
  | some n => if 0 ≤ n ∧ n ≤ 2147483647 then pure n.toNat else raise ("Illegal number: " ++ s)
  | none => raise ("Illegal number: " ++ s)

/-- Runs an action for each of some arguments, and answers the worst status. -/
def worst (args : List String) (a : String → Action Nat) : Action Nat :=
  args.foldlM (fun status arg => do return max status (← a arg)) 0

end Action

/-- Characters as a shell reads them back: apostrophes stand between double quotes, all
else between apostrophes. -/
def quotedChars : Nat → List Char → List Char
  | 0, _ => []
  | fuel + 1, cs =>
    let front := cs.takeWhile (· != '\'')
    let behind := cs.drop front.length
    let row := behind.takeWhile (· == '\'')
    let rest := behind.drop row.length
    '\'' :: front ++ '\'' :: (if row.isEmpty then [] else '"' :: row ++ ['"']) ++
      (if rest.isEmpty then [] else quotedChars fuel rest)

/-- A text as a shell reads it back. -/
def quotedText (s : String) : String := String.ofList (quotedChars (s.length + 1) s.toList)

end HarnessRepair.Shell

import HarnessRepair.Patch.Insertion
import HarnessRepair.Patch.LineMap
import HarnessRepair.World

/-!
# The patch store

The store owns one harness file for the length of a session.  The file holds the
text that was read at the start, less the lines stripped from it, plus the
patches of the log in order, plus at most one change that is in flight.

## Main definitions

* `Snapshot` — a text, the log of its patches, and the lines they hold.
* `Snapshot.extend`, `Snapshot.strip` — the changes, as functions of a snapshot.
* `PatchStore` — the store.
* `PatchStore.applyAll`, `revert`, `commit`, `rollbackTo`, `stripLines`,
  `restorePristine`, `close` — its operations on the world.

Every operation returns the store it leaves together with its result.

## Main results

* `PatchStore.takeInFlight_eq_ok_iff` — a change answers to its own number only.
-/

namespace HarnessRepair

open Text

/-! ### Snapshots -/

/-- A patch as it landed in the harness. -/
structure AppliedPatch where
  patch : Patch
  /-- The number of its first line right after it was applied. -/
  line : Nat
  deriving DecidableEq, Repr

/-- A text, the patches in it, and the lines that hold them, ascending. -/
structure Snapshot where
  source : String
  log : List AppliedPatch := []
  inserted : List Nat := []
  deriving DecidableEq, Repr

/-- Patches put one by one into some lines. -/
structure Draft where
  lines : List Line
  log : List AppliedPatch
  inserted : List Nat
  deriving DecidableEq, Repr

namespace Draft

/-- One more patch. -/
def add (newline : List Char) (d : Draft) (p : Patch) : Except PatchError Draft :=
  match insertPatch newline d.lines p with
  | .error e => .error e
  | .ok (lines, line) =>
    .ok
      { lines := lines
        log := d.log ++ [⟨p, line⟩]
        inserted := shiftInserted line (statementLines p.statement).length d.inserted }

/-- Some more patches; the first that cannot be inserted decides. -/
def addAll (newline : List Char) : Draft → List Patch → Except PatchError Draft
  | d, [] => .ok d
  | d, p :: ps =>
    match d.add newline p with
    | .error e => .error e
    | .ok d => d.addAll newline ps

end Draft

/-- Adds a number to an ascending list that holds each number once. -/
def insertAscending (n : Nat) : List Nat → List Nat
  | [] => [n]
  | m :: rest =>
    if n < m then n :: m :: rest
    else if n = m then m :: rest
    else m :: insertAscending n rest

/-- The numbers of a list in ascending order, each once. -/
def ascending (ns : List Nat) : List Nat := ns.foldr insertAscending []

namespace Snapshot

/-- The snapshot with some patches in it, or why one of them does not fit. -/
def extend (s : Snapshot) (patches : List Patch) : Except PatchError Snapshot :=
  let source := s.source.toList
  match Draft.addAll (newlineOf source) ⟨terminated source, s.log, s.inserted⟩ patches with
  | .error e => .error e
  | .ok d => .ok ⟨String.ofList d.lines.flatten, d.log, d.inserted⟩

/-- The lines that are not listed, the first having the number `n`. -/
def dropListed (listed : List Nat) : Nat → List Line → List Line
  | _, [] => []
  | n, l :: ls =>
    if listed.contains n then dropListed listed (n + 1) ls
    else l :: dropListed listed (n + 1) ls

/-- The snapshot without the listed lines, and their trimmed texts by number. -/
def strip (s : Snapshot) (listed : List Nat) :
    Except PatchError (Snapshot × List (Nat × String)) :=
  let lines := terminated s.source.toList
  let targets := ascending listed
  match targets.find? fun n => n == 0 || lines.length < n with
  | some n => .error (.lineOutOfRange n lines.length)
  | none =>
    let removed := targets.map fun n => (n, String.ofList (trimChars (lines.getD (n - 1) [])))
    .ok ({ s with source := String.ofList (dropListed targets 1 lines).flatten }, removed)

end Snapshot

/-! ### The store -/

/-- What happens to the file when the store is closed. -/
inductive RestorePolicy where
  /-- Kept patches stay. -/
  | keepChanges
  /-- The text read at the start comes back. -/
  | restoreText
  deriving DecidableEq, Repr

/-- A change that is neither kept nor undone yet. -/
structure InFlight where
  id : Nat
  /-- The snapshot before the change. -/
  prior : Snapshot
  deriving DecidableEq, Repr

/-- The owner of one harness file. -/
structure PatchStore where
  path : String
  /-- The text read at the start. -/
  pristine : String
  current : Snapshot
  inFlight : Option InFlight := none
  nextId : Nat := 1
  policy : RestorePolicy
  deriving DecidableEq, Repr

namespace PatchStore

variable {ε : Type}

/-- The text in the file. -/
def source (s : PatchStore) : String := s.current.source

/-- The patches in the text, in the order in which they were applied. -/
def log (s : PatchStore) : List AppliedPatch := s.current.log

/-- Whether a change is in flight. -/
def hasInFlight (s : PatchStore) : Bool := s.inFlight.isSome

/-- The statements in the text, in the order of the log. -/
def appliedStatements (s : PatchStore) : List String := s.log.map fun a => trim a.patch.statement

/-- The text under line numbers. -/
def numberedSource (s : PatchStore) : String := numbered s.source 1

/-- The line that a line of the text had before any insertion. -/
def canonicalLine? (s : PatchStore) (line : Nat) : Option Nat :=
  HarnessRepair.canonicalLine? s.current.inserted line

/-- The line of the text that carries a line of the text without patches. -/
def currentLine (s : PatchStore) (line : Nat) : Except Overflow Nat :=
  HarnessRepair.currentLine s.current.inserted line

/-- The statement inserted at a line, if there is one. -/
def insertedStatementAt? (s : PatchStore) (line : Nat) : Option String :=
  if s.current.inserted.contains line && line != 0 then
    ((terminated s.source.toList)[line - 1]?).map fun l => String.ofList (trimChars l)
  else none

/-- The store of a harness file whose text is `text`. -/
def ofText (path text : String) (policy : RestorePolicy) : PatchStore :=
  { path := path, pristine := text, current := { source := text }, policy := policy }

/-- Takes over the harness file at a path. -/
def openFile (path : String) (policy : RestorePolicy) : Run ε (Except PatchError PatchStore) := do
  match ← readText path with
  | .ok text => return .ok (ofText path text policy)
  | .error e => return .error (.io e)

/-- The field that names the harness in an event. -/
def harnessField (s : PatchStore) : String × FieldValue := ("harness", .shown s.path)

/-- Writes a snapshot to the file and makes it the current one; when writing
fails, the current one stays. -/
def install (s : PatchStore) (next : Snapshot) : Run ε (Except PatchError Unit × PatchStore) := do
  match ← writeText s.path next.source with
  | .ok () => return (.ok (), { s with current := next })
  | .error e => return (.error (.io e), s)

/-- Applies some patches in order as one change, and answers its number.  Nothing
is written unless every patch finds its place. -/
def applyAll (s : PatchStore) (patches : List Patch) :
    Run ε (Except PatchError Nat × PatchStore) := do
  if s.hasInFlight then return (.error .inFlight, s)
  match s.current.extend patches with
  | .error e => return (.error e, s)
  | .ok next =>
    match ← s.install next with
    | (.error e, s) => return (.error e, s)
    | (.ok (), installed) =>
      tell .debug .patchStore "Applied patch"
        [s.harnessField, ("patches", .number patches.length), ("handle", .number s.nextId)]
      return (.ok s.nextId,
        { installed with
          nextId := s.nextId + 1
          inFlight := some ⟨s.nextId, s.current⟩ })

/-- Applies one patch as a change of its own. -/
def apply (s : PatchStore) (p : Patch) : Run ε (Except PatchError Nat × PatchStore) :=
  s.applyAll [p]

/-- The change in flight, if it has the number `handle`, and the store without it. -/
def takeInFlight (s : PatchStore) (handle : Nat) :
    Except PatchError (InFlight × PatchStore) :=
  match s.inFlight with
  | some change =>
    if change.id = handle then .ok (change, { s with inFlight := none })
    else .error (.staleHandle handle)
  | none => .error (.staleHandle handle)

/-- Only the number of the change in flight gets it. -/
theorem takeInFlight_eq_ok_iff {s t : PatchStore} {handle : Nat} {change : InFlight} :
    s.takeInFlight handle = .ok (change, t) ↔
      s.inFlight = some change ∧ change.id = handle ∧ t = { s with inFlight := none } := by
  unfold takeInFlight
  cases hf : s.inFlight with
  | none => simp
  | some c =>
    dsimp only
    by_cases hid : c.id = handle
    · rw [if_pos hid]
      constructor
      · intro h
        obtain ⟨rfl, rfl⟩ : c = change ∧ { s with inFlight := none } = t := by
          have h' := Except.ok.inj h
          exact ⟨congrArg Prod.fst h', congrArg Prod.snd h'⟩
        exact ⟨rfl, hid, rfl⟩
      · rintro ⟨hc, _, rfl⟩
        rw [Option.some.inj hc]
    · rw [if_neg hid]
      constructor
      · intro h
        cases h
      · rintro ⟨hc, hh, _⟩
        exact absurd (Option.some.inj hc ▸ hh) hid

/-- Undoes the change in flight, which must have the number `handle`. -/
def revert (s : PatchStore) (handle : Nat) : Run ε (Except PatchError Unit × PatchStore) := do
  match s.takeInFlight handle with
  | .error e => return (.error e, s)
  | .ok (change, s) =>
    tell .debug .patchStore "Reverted patch" [s.harnessField, ("handle", .number handle)]
    s.install change.prior

/-- Keeps the change in flight, which must have the number `handle`. -/
def commit (s : PatchStore) (handle : Nat) : Except PatchError Unit × PatchStore :=
  match s.takeInFlight handle with
  | .error e => (.error e, s)
  | .ok (_, s) => (.ok (), s)

/-- Goes back to a snapshot; not while a change is in flight. -/
def rollbackTo (s : PatchStore) (snapshot : Snapshot) :
    Run ε (Except PatchError Unit × PatchStore) := do
  if s.hasInFlight then return (.error .inFlight, s)
  s.install snapshot

/-- Goes back to the text read at the start. -/
def restorePristine (s : PatchStore) : Run ε (Except PatchError Unit × PatchStore) :=
  let settled : PatchStore := { s with inFlight := none }
  settled.install { source := s.pristine }

/-- Warns of stripped lines that hold no precondition. -/
def warnStripped (s : PatchStore) : List (Nat × String) → Run ε Unit
  | [] => return ()
  | (line, statement) :: rest => do
    if !contains statement "__CPROVER_assume" then
      tell .warn .patchStore "Stripped line is not a precondition"
        [s.harnessField, ("line", .number line), ("statement", .shown statement)]
    s.warnStripped rest

/-- Removes lines, by number, from a harness that carries no patch, and answers
their trimmed texts.  The text read at the start is not affected. -/
def stripLines (s : PatchStore) (listed : List Nat) :
    Run ε (Except PatchError (List String) × PatchStore) := do
  if s.hasInFlight then return (.error .inFlight, s)
  if !s.log.isEmpty then return (.error (.alreadyPatched s.log.length), s)
  match s.current.strip listed with
  | .error e => return (.error e, s)
  | .ok (next, removed) =>
    s.warnStripped removed
    match ← s.install next with
    | (.error e, s) => return (.error e, s)
    | (.ok (), s) => return (.ok (removed.map (·.2)), s)

/-- Gives the harness file up: a change in flight is undone, and the policy may
bring the text read at the start back. -/
def close (s : PatchStore) : Run ε Unit := do
  if let some change := s.inFlight then
    if let .error e ← writeText s.path change.prior.source then
      tell .error .patchStore "Failed to revert in-flight patch"
        [s.harnessField, ("error", .shown e.message)]
  if s.policy = .restoreText ∧ s.source ≠ s.pristine then
    if let .error e ← writeText s.path s.pristine then
      tell .error .patchStore "Failed to restore harness"
        [s.harnessField, ("error", .shown e.message)]

end PatchStore

end HarnessRepair

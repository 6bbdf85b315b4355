import HarnessRepair.Proofs.Patch.Growth
import HarnessRepair.Proofs.Patch.Operations
import Mathlib.Data.List.Forall2

/-!
# What a store owes its history

Someone who only writes down which operations on a store went through can tell
what the text is made of: which lines have been stripped from it, and which
changes have been made since.  The store keeps its word on that account through
any operations in any order, and so does every snapshot taken of it.

## Main definitions

* `StoreAction`, `Workbench` — the operations, and a store with the snapshots
  taken of it.
* `Provenance`, `Account` — what a text is made of, and the account of a history.
* `Accounted` — the store keeps its word.

## Main results

* `Accounted.perform` — every operation keeps it so.
* `accounted_useStore` — **every history of a store does.**
-/

namespace HarnessRepair

/-! ### Histories -/

/-- An operation on a store.  Snapshots go by the order in which they were taken. -/
inductive StoreAction where
  | apply (p : Patch)
  | applyAll (ps : List Patch)
  | commit (handle : Nat)
  | revert (handle : Nat)
  | takeSnapshot
  | rollbackTo (n : Nat)
  | stripLines (listed : List Nat)
  | restorePristine
  deriving DecidableEq, Repr

/-- A store and the snapshots taken of it. -/
structure Workbench where
  store : PatchStore
  taken : List Snapshot := []
  deriving DecidableEq, Repr

namespace Workbench

variable {ε α : Type}

/-- An operation of the store; only whether it went through is kept. -/
def tryOut (b : Workbench) (m : Run ε (Except PatchError α × PatchStore)) :
    Run ε (Bool × Workbench) := do
  let (result, store) ← m
  return (result.isOk, { b with store := store })

/-- One operation. -/
def perform (b : Workbench) : StoreAction → Run ε (Bool × Workbench)
  | .apply p => b.tryOut (b.store.apply p)
  | .applyAll ps => b.tryOut (b.store.applyAll ps)
  | .commit handle => b.tryOut (pure (b.store.commit handle))
  | .revert handle => b.tryOut (b.store.revert handle)
  | .takeSnapshot => pure (true, { b with taken := b.taken ++ [b.store.current] })
  | .rollbackTo n =>
    match b.taken[n]? with
    | some snapshot => b.tryOut (b.store.rollbackTo snapshot)
    | none => pure (false, b)
  | .stripLines listed => b.tryOut (b.store.stripLines listed)
  | .restorePristine => b.tryOut b.store.restorePristine

/-- Some operations, and which of them went through. -/
def performAll : Workbench → List StoreAction → Run ε (List Bool × Workbench)
  | b, [] => return ([], b)
  | b, action :: actions => do
    let (went, b) ← b.perform action
    let (others, b) ← b.performAll actions
    return (went :: others, b)

end Workbench

/-- Takes over the harness file at a path and works on it. -/
def useStore {ε : Type} (path : String) (policy : RestorePolicy) (actions : List StoreAction) :
    Run ε (Except PatchError (List Bool × Workbench)) := do
  match ← PatchStore.openFile path policy with
  | .error e => return .error e
  | .ok store => return .ok (← Workbench.performAll { store := store } actions)

/-! ### Accounts -/

/-- What a text is made of: lines stripped, in turns, then changes. -/
structure Provenance where
  strips : List (List Nat) := []
  changes : List (List Patch) := []
  deriving DecidableEq, Repr

namespace Provenance

/-- The text without the stripped lines. -/
def base (c : Provenance) (text : String) : String := c.strips.foldl withoutLines text

/-- The patches, in the order in which they were applied. -/
def patches (c : Provenance) : List Patch := c.changes.flatten

end Provenance

/-- The account of a history. -/
structure Account where
  current : Provenance := {}
  /-- What the text was made of before the change in flight. -/
  prior : Provenance := {}
  taken : List Provenance := []
  deriving DecidableEq, Repr

namespace Account

/-- The account with one more change. -/
def change (a : Account) (ps : List Patch) : Account :=
  { a with
    current := { a.current with changes := a.current.changes ++ [ps] }
    prior := a.current }

/-- One more operation, and whether it went through. -/
def record (a : Account) : StoreAction → Bool → Account
  | _, false => a
  | .apply p, true => a.change [p]
  | .applyAll ps, true => a.change ps
  | .commit _, true => a
  | .revert _, true => { a with current := a.prior }
  | .takeSnapshot, true => { a with taken := a.taken ++ [a.current] }
  | .rollbackTo n, true => { a with current := a.taken.getD n a.current }
  | .stripLines listed, true =>
    { a with current := { a.current with strips := a.current.strips ++ [listed] } }
  | .restorePristine, true => { a with current := {} }

/-- The account of some operations. -/
def recordAll (a : Account) : List StoreAction → List Bool → Account
  | action :: actions, went :: others => (a.record action went).recordAll actions others
  | _, _ => a

end Account

/-! ### Keeping one's word -/

/-- A snapshot is made of what the account says. -/
def Faithful (text : String) (c : Provenance) (s : Snapshot) : Prop :=
  Grown { source := c.base text } c.changes s

theorem faithful_start (text : String) : Faithful text {} { source := text } := Grown.start

/-- The log of a snapshot holds the patches of the account. -/
theorem Faithful.log_eq {text : String} {c : Provenance} {s : Snapshot} (h : Faithful text c s) :
    s.log.map (·.patch) = c.patches := by
  have hlog := Grown.patches h
  rwa [List.map_nil, List.nil_append] at hlog

/-- A snapshot without patches is only its text. -/
theorem Faithful.of_log_nil {text : String} {c : Provenance} {s : Snapshot}
    (h : Faithful text c s) (hlog : s.log = []) : s = { source := c.base text } := by
  refine Grown.eq_start h ?_
  have hpatches := h.log_eq
  rw [hlog] at hpatches
  exact hpatches.symm

theorem Faithful.change {text : String} {c : Provenance} {s t : Snapshot} {ps : List Patch}
    (h : Faithful text c s) (hext : s.extend ps = .ok t) :
    Faithful text { c with changes := c.changes ++ [ps] } t :=
  Grown.more h hext

/-- Stripping a text without patches. -/
theorem Faithful.strip {text : String} {c : Provenance} {s t : Snapshot} {listed : List Nat}
    {removed : List (Nat × String)} (h : Faithful text c s) (hlog : s.log = [])
    (hstrip : s.strip listed = .ok (t, removed)) :
    Faithful text { c with strips := c.strips ++ [listed] } t := by
  have hs := h.of_log_nil hlog
  have hnone : c.changes.flatten = [] := by
    have hpatches := h.log_eq
    rw [hlog] at hpatches
    exact hpatches.symm
  have hbase : ({ c with strips := c.strips ++ [listed] } : Provenance).base text =
      withoutLines (c.base text) listed := by
    rw [Provenance.base, List.foldl_append]
    rfl
  have ht : t = { source := withoutLines (c.base text) listed } := by
    rw [Snapshot.strip_eq_ok hstrip, hs]
  rw [Faithful, hbase, ht]
  exact Grown.idle hnone

/-- The store, the snapshots taken of it and the file are as the account says. -/
structure Accounted {ε : Type} (path text : String) (policy : RestorePolicy) (a : Account)
    (b : Workbench) (w : World ε) : Prop where
  path_eq : b.store.path = path
  pristine_eq : b.store.pristine = text
  policy_eq : b.store.policy = policy
  holds : Holds path b.store.source w
  current : Faithful text a.current b.store.current
  /-- The change in flight is the last one, and what was before it is known. -/
  inFlight : ∀ change, b.store.inFlight = some change →
    Faithful text a.prior change.prior ∧ a.current.strips = a.prior.strips ∧
      ∃ ps, change.prior.extend ps = .ok b.store.current
  taken : List.Forall₂ (Faithful text) a.taken b.taken

namespace Accounted

variable {ε : Type} {path text : String} {policy : RestorePolicy} {a : Account} {b : Workbench}
  {w : World ε}

/-- What the store holds, and under which path. -/
theorem holds_path (h : Accounted path text policy a b w) :
    Holds b.store.path b.store.source w := by
  rw [h.path_eq]
  exact h.holds

/-- An operation that fails leaves everything as it is. -/
theorem failed (h : Accounted path text policy a b w) {α : Type}
    {m : Run ε (Except PatchError α × PatchStore)} {e : PatchError}
    (hm : m.run w = ((.error e, b.store), w)) :
    ∃ b' w', (b.tryOut m).run w = ((false, b'), w') ∧ Accounted path text policy a b' w' := by
  refine ⟨b, w, ?_, h⟩
  rw [Workbench.tryOut, run_bind, hm]
  rfl

/-- A change, if its patches fit. -/
theorem applyAll (h : Accounted path text policy a b w) (ps : List Patch) :
    ∃ went b' w', (b.tryOut (b.store.applyAll ps)).run w = ((went, b'), w') ∧
      Accounted path text policy (if went then a.change ps else a) b' w' := by
  cases hf : b.store.inFlight with
  | some change => exact ⟨false, h.failed (PatchStore.run_applyAll_inFlight hf ps)⟩
  | none =>
    cases hext : b.store.current.extend ps with
    | error e => exact ⟨false, h.failed (PatchStore.run_applyAll_misfit hf hext)⟩
    | ok next =>
      obtain ⟨w', hrun, hholds, -⟩ := PatchStore.run_applyAll hf hext h.holds_path
      refine ⟨true, { b with store := b.store.changed next }, w', ?_, ?_⟩
      · rw [Workbench.tryOut, run_bind, hrun]
        rfl
      · exact
          { h with
            holds := h.path_eq ▸ hholds
            current := h.current.change hext
            inFlight := by
              intro change hchange
              obtain rfl := Option.some.inj hchange
              exact ⟨h.current, rfl, ps, hext⟩ }

/-- The change in flight is kept, if it is the one. -/
theorem commit (h : Accounted path text policy a b w) (handle : Nat) :
    ∃ went b' w', (b.tryOut (pure (b.store.commit handle))).run w = ((went, b'), w') ∧
      Accounted path text policy a b' w' := by
  cases htake : b.store.takeInFlight handle with
  | error e =>
    refine ⟨false, h.failed (e := e) ?_⟩
    rw [PatchStore.commit_stale htake]
    rfl
  | ok r =>
    obtain ⟨change, t⟩ := r
    obtain ⟨hf, rfl, -⟩ := PatchStore.takeInFlight_eq_ok_iff.1 htake
    refine ⟨true, { b with store := { b.store with inFlight := none } }, w, ?_, ?_⟩
    · rw [PatchStore.commit_eq hf]
      rfl
    · exact
        { h with
          inFlight := fun change hchange => by cases hchange }

/-- The change in flight is undone, if it is the one. -/
theorem revert (h : Accounted path text policy a b w) (handle : Nat) :
    ∃ went b' w', (b.tryOut (b.store.revert handle)).run w = ((went, b'), w') ∧
      Accounted path text policy (if went then { a with current := a.prior } else a) b' w' := by
  cases htake : b.store.takeInFlight handle with
  | error e => exact ⟨false, h.failed (PatchStore.run_revert_stale htake)⟩
  | ok r =>
    obtain ⟨change, t⟩ := r
    obtain ⟨hf, rfl, -⟩ := PatchStore.takeInFlight_eq_ok_iff.1 htake
    obtain ⟨hprior, -⟩ := h.inFlight change hf
    obtain ⟨w', hrun, hholds, -⟩ := PatchStore.run_revert hf h.holds_path
    refine ⟨true, { b with store := { b.store with inFlight := none, current := change.prior } },
      w', ?_, ?_⟩
    · rw [Workbench.tryOut, run_bind, hrun]
      rfl
    · exact
        { h with
          holds := h.path_eq ▸ hholds
          current := hprior
          inFlight := fun change hchange => by cases hchange }

/-- Going back to a snapshot, if none is in flight. -/
theorem rollbackTo (h : Accounted path text policy a b w) (n : Nat) :
    ∃ went b' w', (b.perform (.rollbackTo n)).run w = ((went, b'), w') ∧
      Accounted path text policy (a.record (.rollbackTo n) went) b' w' := by
  rw [Workbench.perform]
  cases hn : b.taken[n]? with
  | none => exact ⟨false, b, w, rfl, h⟩
  | some snapshot =>
    cases hf : b.store.inFlight with
    | some change => exact ⟨false, h.failed (PatchStore.run_rollbackTo_inFlight hf snapshot)⟩
    | none =>
      obtain ⟨w', hrun, hholds, -⟩ := PatchStore.run_rollbackTo hf h.holds_path snapshot
      refine ⟨true, { b with store := { b.store with current := snapshot } }, w', ?_, ?_⟩
      · dsimp only
        rw [Workbench.tryOut, run_bind, hrun]
        rfl
      · -- the account has a line on the snapshot
        obtain ⟨hlt, hget⟩ := List.getElem?_eq_some_iff.1 hn
        have hlt' : n < a.taken.length := by rw [h.taken.length_eq]; exact hlt
        have hfaithful := h.taken.get hlt' hlt
        rw [List.get_eq_getElem, List.get_eq_getElem, hget] at hfaithful
        have hcurrent : (a.record (.rollbackTo n) true).current = a.taken[n] := by
          rw [Account.record, List.getD_eq_getElem?_getD, List.getElem?_eq_getElem hlt',
            Option.getD_some]
        exact
          { h with
            holds := h.path_eq ▸ hholds
            current := by rw [hcurrent]; exact hfaithful
            inFlight := fun change hchange => by rw [hf] at hchange; cases hchange }

/-- Stripping, if there is no patch. -/
theorem stripLines (h : Accounted path text policy a b w) (listed : List Nat) :
    ∃ went b' w', (b.tryOut (b.store.stripLines listed)).run w = ((went, b'), w') ∧
      Accounted path text policy (a.record (.stripLines listed) went) b' w' := by
  cases hf : b.store.inFlight with
  | some change => exact ⟨false, h.failed (PatchStore.run_stripLines_inFlight hf listed)⟩
  | none =>
    by_cases hlog : b.store.log = []
    · cases hstrip : b.store.current.strip listed with
      | error e => exact ⟨false, h.failed (PatchStore.run_stripLines_misfit hf hlog hstrip)⟩
      | ok r =>
        obtain ⟨next, removed⟩ := r
        obtain ⟨w', hrun, hholds, -⟩ := PatchStore.run_stripLines hf hlog hstrip h.holds_path
        refine ⟨true, { b with store := { b.store with current := next } }, w', ?_, ?_⟩
        · rw [Workbench.tryOut, run_bind, hrun]
          rfl
        · exact
            { h with
              holds := h.path_eq ▸ hholds
              current := h.current.strip hlog hstrip
              inFlight := fun change hchange => by rw [hf] at hchange; cases hchange }
    · exact ⟨false, h.failed (PatchStore.run_stripLines_patched hf hlog listed)⟩

/-- Going back to the text read at the start. -/
theorem restorePristine (h : Accounted path text policy a b w) :
    ∃ b' w', (b.tryOut b.store.restorePristine).run w = ((true, b'), w') ∧
      Accounted path text policy { a with current := {} } b' w' := by
  obtain ⟨w', hrun, hholds, -⟩ := PatchStore.run_restorePristine h.holds_path
  let settled : PatchStore := { b.store with inFlight := none }
  refine ⟨{ b with store := { settled with current := { source := b.store.pristine } } },
    w', ?_, ?_⟩
  · rw [Workbench.tryOut, run_bind, hrun]
    rfl
  · exact
      { h with
        holds := h.path_eq ▸ hholds
        current := h.pristine_eq ▸ faithful_start text
        inFlight := fun change hchange => by cases hchange }

/-- **Every operation keeps the account.** -/
theorem perform (h : Accounted path text policy a b w) (action : StoreAction) :
    ∃ went b' w', (b.perform action).run w = ((went, b'), w') ∧
      Accounted path text policy (a.record action went) b' w' := by
  cases action with
  | apply p =>
    obtain ⟨went, b', w', hrun, hafter⟩ := h.applyAll [p]
    refine ⟨went, b', w', hrun, ?_⟩
    cases went <;> exact hafter
  | applyAll ps =>
    obtain ⟨went, b', w', hrun, hafter⟩ := h.applyAll ps
    refine ⟨went, b', w', hrun, ?_⟩
    cases went <;> exact hafter
  | commit handle =>
    obtain ⟨went, b', w', hrun, hafter⟩ := h.commit handle
    refine ⟨went, b', w', hrun, ?_⟩
    cases went <;> exact hafter
  | revert handle =>
    obtain ⟨went, b', w', hrun, hafter⟩ := h.revert handle
    refine ⟨went, b', w', hrun, ?_⟩
    cases went <;> exact hafter
  | takeSnapshot =>
    refine ⟨true, _, w, rfl, ?_⟩
    exact { h with taken := List.rel_append h.taken (List.Forall₂.cons h.current .nil) }
  | rollbackTo n => exact h.rollbackTo n
  | stripLines listed => exact h.stripLines listed
  | restorePristine => exact ⟨true, h.restorePristine⟩

/-- Some operations keep the account. -/
theorem performAll (h : Accounted path text policy a b w) (actions : List StoreAction) :
    ∃ outcomes b' w', (b.performAll actions).run w = ((outcomes, b'), w') ∧
      Accounted path text policy (a.recordAll actions outcomes) b' w' := by
  induction actions generalizing a b w with
  | nil => exact ⟨[], b, w, rfl, h⟩
  | cons action actions ih =>
    obtain ⟨went, b₁, w₁, hrun₁, h₁⟩ := h.perform action
    obtain ⟨others, b₂, w₂, hrun₂, h₂⟩ := ih h₁
    refine ⟨went :: others, b₂, w₂, ?_, h₂⟩
    rw [Workbench.performAll, run_bind, hrun₁, run_bind, hrun₂]
    rfl

end Accounted

/-- A store that has just been opened has nothing to account for. -/
theorem accounted_ofText {ε : Type} {path text : String} {w : World ε} (h : Holds path text w)
    (policy : RestorePolicy) :
    Accounted path text policy {} { store := .ofText path text policy } w where
  path_eq := rfl
  pristine_eq := rfl
  policy_eq := rfl
  holds := h
  current := faithful_start text
  inFlight := fun change hchange => by cases hchange
  taken := .nil

/-- Working on a store is performing operations on the one that has been opened. -/
theorem run_useStore {ε : Type} {path text : String} {w w' : World ε} {policy : RestorePolicy}
    {actions : List StoreAction} {r : List Bool × Workbench} (h : Holds path text w)
    (hrun : (Workbench.performAll { store := .ofText path text policy } actions).run w = (r, w')) :
    (useStore path policy actions).run w = (.ok r, w') := by
  have hread := run_readText h
  rw [useStore, run_bind, PatchStore.openFile, run_bind, hread]
  exact congrArg (fun r => (Except.ok r.1, r.2)) hrun

/-- **Every history of a store is accounted for.** -/
theorem accounted_useStore {ε : Type} {path text : String} {w : World ε}
    (h : Holds path text w) (policy : RestorePolicy) (actions : List StoreAction) :
    ∃ outcomes b w', (useStore path policy actions).run w = (.ok (outcomes, b), w') ∧
      Accounted path text policy (Account.recordAll {} actions outcomes) b w' := by
  obtain ⟨outcomes, b, w', hrun, hafter⟩ := (accounted_ofText h policy).performAll actions
  exact ⟨outcomes, b, w', run_useStore h hrun, hafter⟩

end HarnessRepair

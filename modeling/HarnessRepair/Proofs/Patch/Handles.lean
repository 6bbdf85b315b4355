import HarnessRepair.Proofs.Patch.Reached

/-!
# The numbers of changes

A change gets a number when it is applied, and it is kept or undone by that number.
Whatever numbers are tried in whatever order, a number does its work at most once, and
only while its own change is the one in flight; undoing a change brings back what was
there before it; and an operation that fails has done nothing at all.

## Main definitions

* `StoreStep`, `Workbench.steps` — the operations of a history, with what they meet.
* `StoreStep.issued`, `StoreStep.settled` — the number that an operation gives out, and
  the one that it accepts.
* `StoreStep.Effect` — all that an operation can do to the numbers.

## Main results

* `Accounted.effect` — **every operation is of one of four kinds.**
* `issued_lt`, `exists_issued` — where the change in flight comes from.
* `useStore_handles` — **a number is accepted once, and by its own change.**
-/

namespace HarnessRepair

variable {ε : Type}

/-! ### Histories, step by step -/

/-- An operation of a history, with the store and the world that it meets. -/
structure StoreStep (ε : Type) where
  bench : Workbench
  world : World ε
  action : StoreAction

namespace StoreStep

/-- Whether the operation goes through. -/
def went (s : StoreStep ε) : Bool := ((s.bench.perform s.action).run s.world).1.1

/-- The store that the operation leaves. -/
def after (s : StoreStep ε) : Workbench := ((s.bench.perform s.action).run s.world).1.2

/-- The world that the operation leaves. -/
def left (s : StoreStep ε) : World ε := ((s.bench.perform s.action).run s.world).2

/-- The number of the change that the operation makes. -/
def issued (s : StoreStep ε) : Option Nat :=
  match s.action with
  | .apply p => ((s.bench.store.apply p).run s.world).1.1.toOption
  | .applyAll ps => ((s.bench.store.applyAll ps).run s.world).1.1.toOption
  | _ => none

/-- The number by which the operation keeps or undoes a change. -/
def settled (s : StoreStep ε) : Option Nat :=
  match s.action with
  | .commit n | .revert n => if s.went then some n else none
  | _ => none

end StoreStep

/-- The operations of a history. -/
def Workbench.steps (b : Workbench) (w : World ε) : List StoreAction → List (StoreStep ε)
  | [] => []
  | action :: actions =>
    let s : StoreStep ε := ⟨b, w, action⟩
    s :: s.after.steps s.left actions

/-- Performing some operations is taking their steps. -/
theorem Workbench.run_performAll (b : Workbench) (w : World ε) (actions : List StoreAction) :
    ∃ b' w', (b.performAll actions).run w =
      (((b.steps w actions).map StoreStep.went, b'), w') := by
  induction actions generalizing b w with
  | nil => exact ⟨b, w, rfl⟩
  | cons action actions ih =>
    let s : StoreStep ε := ⟨b, w, action⟩
    obtain ⟨b', w', hrest⟩ := ih s.after s.left
    have hfirst : (b.perform action).run w = ((s.went, s.after), s.left) := rfl
    refine ⟨b', w', ?_⟩
    rw [performAll, run_bind, hfirst, run_bind, hrest]
    rfl

/-- A step meets what the step before it has left. -/
theorem Workbench.exists_step_before {b : Workbench} {w : World ε} {actions : List StoreAction}
    {i : Nat} {t : StoreStep ε} (h : (b.steps w actions)[i + 1]? = some t) :
    ∃ s, (b.steps w actions)[i]? = some s ∧ t.bench = s.after ∧ t.world = s.left := by
  induction actions generalizing b w i with
  | nil => cases h
  | cons action actions ih =>
    rw [steps, List.getElem?_cons_succ] at h
    cases i with
    | zero =>
      refine ⟨⟨b, w, action⟩, rfl, ?_⟩
      cases actions with
      | nil => cases h
      | cons next actions =>
        obtain rfl := Option.some.inj h
        exact ⟨rfl, rfl⟩
    | succ i => exact ih h

/-- The first step meets what there is. -/
theorem Workbench.first_step {b : Workbench} {w : World ε} {actions : List StoreAction}
    {t : StoreStep ε} (h : (b.steps w actions)[0]? = some t) : t.bench = b ∧ t.world = w := by
  cases actions with
  | nil => cases h
  | cons action actions =>
    obtain rfl := Option.some.inj h
    exact ⟨rfl, rfl⟩

/-! ### What an operation can do -/

/-- All that an operation can do to the numbers. -/
inductive StoreStep.Effect (s : StoreStep ε) : Prop where
  /-- It does not go through, and nothing has happened. -/
  | refused (went : s.went = false) (after : s.after = s.bench) (left : s.left = s.world)
      (issued : s.issued = none)
  /-- It makes a change, and gives out a number that is new. -/
  | change (went : s.went = true) (free : s.bench.store.inFlight = none)
      (issued : s.issued = some s.bench.store.nextId)
      (inFlight : s.after.store.inFlight = some ⟨s.bench.store.nextId, s.bench.store.current⟩)
      (nextId : s.after.store.nextId = s.bench.store.nextId + 1)
      (settled : s.settled = none)
  /-- It keeps or undoes the change in flight. -/
  | settlement (made : InFlight) (inFlight : s.bench.store.inFlight = some made)
      (went : s.went = true) (issued : s.issued = none) (settled : s.settled = some made.id)
      (free : s.after.store.inFlight = none) (nextId : s.after.store.nextId = s.bench.store.nextId)
      (restored : s.action = .revert made.id → s.after.store.current = made.prior)
  /-- It has to do with no number, though it may forget the change in flight. -/
  | other (went : s.went = true) (issued : s.issued = none) (settled : s.settled = none)
      (inFlight : s.after.store.inFlight = none ∨
        s.after.store.inFlight = s.bench.store.inFlight)
      (nextId : s.after.store.nextId = s.bench.store.nextId)

namespace StoreStep

variable {s : StoreStep ε} {b : Workbench} {w : World ε}

/-- What a step leaves is what performing the operation gives. -/
theorem of_run {went : Bool} {after : Workbench} {left : World ε}
    (h : (s.bench.perform s.action).run s.world = ((went, after), left)) :
    s.went = went ∧ s.after = after ∧ s.left = left := by
  rw [StoreStep.went, StoreStep.after, StoreStep.left, h]
  exact ⟨rfl, rfl, rfl⟩

/-- An operation that fails where it stands. -/
theorem Effect.of_refused {α : Type} {m : Run ε (Except PatchError α × PatchStore)}
    {e : PatchError} (hperform : s.bench.perform s.action = s.bench.tryOut m)
    (hm : m.run s.world = ((.error e, s.bench.store), s.world)) (hissued : s.issued = none) :
    s.Effect := by
  have hrun : (s.bench.perform s.action).run s.world = ((false, s.bench), s.world) := by
    rw [hperform, Workbench.tryOut, run_bind, hm]
    rfl
  obtain ⟨hwent, hafter, hleft⟩ := of_run hrun
  exact .refused hwent hafter hleft hissued

theorem effect_applyAll (h : Holds b.store.path b.store.source w) (ps : List Patch) :
    (⟨b, w, .applyAll ps⟩ : StoreStep ε).Effect := by
  cases hfree : b.store.inFlight with
  | some made =>
    have hrun := PatchStore.run_applyAll_inFlight (w := w) hfree ps
    exact .of_refused rfl hrun (congrArg (fun r => r.1.1.toOption) hrun)
  | none =>
    cases hext : b.store.current.extend ps with
    | error e =>
      have hrun := PatchStore.run_applyAll_misfit (w := w) hfree hext
      exact .of_refused rfl hrun (congrArg (fun r => r.1.1.toOption) hrun)
    | ok next =>
      obtain ⟨w', hrun, -⟩ := PatchStore.run_applyAll hfree hext h
      have hperform : (b.perform (.applyAll ps)).run w =
          ((true, { b with store := b.store.changed next }), w') := by
        rw [Workbench.perform, Workbench.tryOut, run_bind, hrun]
        rfl
      obtain ⟨hwent, hafter, -⟩ := of_run (s := ⟨b, w, .applyAll ps⟩) hperform
      refine .change hwent hfree ?_ ?_ ?_ rfl
      · exact congrArg (fun r => r.1.1.toOption) hrun
      · rw [hafter]
        rfl
      · rw [hafter]
        rfl

/-- The change in flight is kept by its number. -/
theorem commit_goes {made : InFlight} (hmade : b.store.inFlight = some made) :
    let s : StoreStep ε := ⟨b, w, .commit made.id⟩
    s.went = true ∧ s.after = { b with store := { b.store with inFlight := none } } := by
  intro s
  have hperform : (b.perform (.commit made.id)).run w =
      ((true, { b with store := { b.store with inFlight := none } }), w) := by
    rw [Workbench.perform, PatchStore.commit_eq hmade]
    rfl
  obtain ⟨hwent, hafter, -⟩ := of_run (s := s) hperform
  exact ⟨hwent, hafter⟩

/-- The change in flight is undone by its number. -/
theorem revert_goes {made : InFlight} (hmade : b.store.inFlight = some made)
    (h : Holds b.store.path b.store.source w) :
    let s : StoreStep ε := ⟨b, w, .revert made.id⟩
    s.went = true ∧
      s.after = { b with store := { b.store with inFlight := none, current := made.prior } } := by
  intro s
  obtain ⟨w', hrun, -⟩ := PatchStore.run_revert hmade h
  have hperform : (b.perform (.revert made.id)).run w = ((true,
      { b with store := { b.store with inFlight := none, current := made.prior } }), w') := by
    rw [Workbench.perform, Workbench.tryOut, run_bind, hrun]
    rfl
  obtain ⟨hwent, hafter, -⟩ := of_run (s := s) hperform
  exact ⟨hwent, hafter⟩

theorem effect_commit (n : Nat) : (⟨b, w, .commit n⟩ : StoreStep ε).Effect := by
  cases htake : b.store.takeInFlight n with
  | error e =>
    refine .of_refused rfl (e := e) ?_ rfl
    rw [PatchStore.commit_stale htake]
    rfl
  | ok r =>
    obtain ⟨made, t⟩ := r
    obtain ⟨hmade, rfl, -⟩ := PatchStore.takeInFlight_eq_ok_iff.1 htake
    obtain ⟨hwent, hafter⟩ := commit_goes (w := w) hmade
    refine .settlement made hmade hwent rfl ?_ ?_ ?_ ?_
    · rw [settled, hwent]
      rfl
    · rw [hafter]
    · rw [hafter]
    · intro haction
      cases haction

theorem effect_revert (h : Holds b.store.path b.store.source w) (n : Nat) :
    (⟨b, w, .revert n⟩ : StoreStep ε).Effect := by
  cases htake : b.store.takeInFlight n with
  | error e => exact .of_refused rfl (PatchStore.run_revert_stale htake) rfl
  | ok r =>
    obtain ⟨made, t⟩ := r
    obtain ⟨hmade, rfl, -⟩ := PatchStore.takeInFlight_eq_ok_iff.1 htake
    obtain ⟨hwent, hafter⟩ := revert_goes hmade h
    refine .settlement made hmade hwent rfl ?_ ?_ ?_ ?_
    · rw [settled, hwent]
      rfl
    · rw [hafter]
    · rw [hafter]
    · intro _
      rw [hafter]

/-- Whoever has the number of the change in flight settles it. -/
theorem settled_of_inFlight {made : InFlight}
    (h : Holds s.bench.store.path s.bench.store.source s.world)
    (hmade : s.bench.store.inFlight = some made)
    (haction : s.action = .commit made.id ∨ s.action = .revert made.id) :
    s.settled = some made.id := by
  obtain ⟨b, w, action⟩ := s
  rcases haction with rfl | rfl
  · rw [settled, (commit_goes hmade).1]
    rfl
  · rw [settled, (revert_goes hmade h).1]
    rfl

theorem effect_rollbackTo (h : Holds b.store.path b.store.source w) (n : Nat) :
    (⟨b, w, .rollbackTo n⟩ : StoreStep ε).Effect := by
  cases hn : b.taken[n]? with
  | none =>
    -- there is no such snapshot to go back to
    have hperform : (b.perform (.rollbackTo n)).run w = ((false, b), w) := by
      rw [Workbench.perform, hn]
      rfl
    obtain ⟨hwent, hafter, hleft⟩ := of_run (s := ⟨b, w, .rollbackTo n⟩) hperform
    exact .refused hwent hafter hleft rfl
  | some snapshot =>
    have hcase : b.perform (.rollbackTo n) = b.tryOut (ε := ε) (b.store.rollbackTo snapshot) := by
      rw [Workbench.perform, hn]
    cases hfree : b.store.inFlight with
    | some made => exact .of_refused hcase (PatchStore.run_rollbackTo_inFlight hfree snapshot) rfl
    | none =>
      obtain ⟨w', hrun, -⟩ := PatchStore.run_rollbackTo hfree h snapshot
      have hperform : (b.perform (.rollbackTo n)).run w =
          ((true, { b with store := { b.store with current := snapshot } }), w') := by
        rw [hcase, Workbench.tryOut, run_bind, hrun]
        rfl
      obtain ⟨hwent, hafter, -⟩ := of_run (s := ⟨b, w, .rollbackTo n⟩) hperform
      exact .other hwent rfl rfl (Or.inr (by rw [hafter])) (by rw [hafter])

theorem effect_stripLines (h : Holds b.store.path b.store.source w) (listed : List Nat) :
    (⟨b, w, .stripLines listed⟩ : StoreStep ε).Effect := by
  cases hfree : b.store.inFlight with
  | some made => exact .of_refused rfl (PatchStore.run_stripLines_inFlight hfree listed) rfl
  | none =>
    by_cases hlog : b.store.log = []
    · cases hstrip : b.store.current.strip listed with
      | error e => exact .of_refused rfl (PatchStore.run_stripLines_misfit hfree hlog hstrip) rfl
      | ok r =>
        obtain ⟨next, removed⟩ := r
        obtain ⟨w', hrun, -⟩ := PatchStore.run_stripLines hfree hlog hstrip h
        have hperform : (b.perform (.stripLines listed)).run w =
            ((true, { b with store := { b.store with current := next } }), w') := by
          rw [Workbench.perform, Workbench.tryOut, run_bind, hrun]
          rfl
        obtain ⟨hwent, hafter, -⟩ := of_run (s := ⟨b, w, .stripLines listed⟩) hperform
        exact .other hwent rfl rfl (Or.inr (by rw [hafter])) (by rw [hafter])
    · exact .of_refused rfl (PatchStore.run_stripLines_patched hfree hlog listed) rfl

theorem effect_restorePristine (h : Holds b.store.path b.store.source w) :
    (⟨b, w, .restorePristine⟩ : StoreStep ε).Effect := by
  obtain ⟨w', hrun, -⟩ := PatchStore.run_restorePristine h
  have hperform := run_bind b.store.restorePristine
    (fun r => pure (r.1.isOk, ({ b with store := r.2 } : Workbench))) w
  rw [hrun] at hperform
  obtain ⟨hwent, hafter, -⟩ := of_run (s := ⟨b, w, .restorePristine⟩) hperform
  exact .other hwent rfl rfl (Or.inl (by rw [hafter])) (by rw [hafter])

end StoreStep

/-- **Every operation is of one of four kinds.** -/
theorem Accounted.effect {path text : String} {policy : RestorePolicy} {a : Account}
    {s : StoreStep ε} (h : Accounted path text policy a s.bench s.world) : s.Effect := by
  obtain ⟨b, w, action⟩ := s
  have hholds : Holds b.store.path b.store.source w := h.holds_path
  cases action with
  | apply p =>
    -- a single patch is applied as a list of one
    cases StoreStep.effect_applyAll hholds [p] with
    | refused went after left issued => exact .refused went after left issued
    | change went free issued inFlight nextId settled =>
      exact .change went free issued inFlight nextId settled
    | settlement made inFlight went issued settled free nextId restored => cases settled
    | other went issued settled inFlight nextId => exact .other went issued settled inFlight nextId
  | applyAll ps => exact StoreStep.effect_applyAll hholds ps
  | commit n => exact StoreStep.effect_commit n
  | revert n => exact StoreStep.effect_revert hholds n
  | takeSnapshot => exact .other rfl rfl rfl (Or.inr rfl) rfl
  | rollbackTo n => exact StoreStep.effect_rollbackTo hholds n
  | stripLines listed => exact StoreStep.effect_stripLines hholds listed
  | restorePristine => exact StoreStep.effect_restorePristine hholds

/-! ### What a number stands for -/

namespace StoreStep.Effect

variable {s : StoreStep ε} {n : Nat}

/-- A number is given out by a change of its own. -/
theorem of_issued (h : s.Effect) (hissued : s.issued = some n) :
    n = s.bench.store.nextId ∧ s.bench.store.inFlight = none ∧
      s.after.store.inFlight = some ⟨n, s.bench.store.current⟩ ∧
      s.after.store.nextId = n + 1 := by
  cases h with
  | refused _ _ _ hnone =>
    rw [hnone] at hissued
    cases hissued
  | change _ hfree hsome hafter hnext _ =>
    obtain rfl : s.bench.store.nextId = n := Option.some.inj (hsome.symm.trans hissued)
    exact ⟨rfl, hfree, hafter, hnext⟩
  | settlement _ _ _ hnone =>
    rw [hnone] at hissued
    cases hissued
  | other _ hnone =>
    rw [hnone] at hissued
    cases hissued

/-- A number is accepted for the change in flight. -/
theorem of_settled (h : s.Effect) (hsettled : s.settled = some n) :
    ∃ made, s.bench.store.inFlight = some made ∧ made.id = n ∧
      s.after.store.inFlight = none ∧
      (s.action = .revert n → s.after.store.current = made.prior) := by
  cases h with
  | refused hwent _ _ _ =>
    -- what does not go through accepts nothing
    rw [settled, hwent] at hsettled
    split at hsettled <;> cases hsettled
  | change _ _ _ _ _ hnone =>
    rw [hnone] at hsettled
    cases hsettled
  | settlement made hmade _ _ hsome hfree _ hrestored =>
    obtain rfl : made.id = n := Option.some.inj (hsome.symm.trans hsettled)
    exact ⟨made, hmade, rfl, hfree, hrestored⟩
  | other _ _ hnone =>
    rw [hnone] at hsettled
    cases hsettled

/-- What is in flight afterwards has been before, or has just been made. -/
theorem of_inFlight {change : InFlight} (h : s.Effect)
    (hchange : s.after.store.inFlight = some change) :
    s.bench.store.inFlight = some change ∨
      s.issued = some change.id ∧ change.prior = s.bench.store.current := by
  cases h with
  | refused _ hafter _ _ =>
    rw [hafter] at hchange
    exact Or.inl hchange
  | change _ _ hsome hafter _ _ =>
    obtain rfl := Option.some.inj (hafter.symm.trans hchange)
    exact Or.inr ⟨hsome, rfl⟩
  | settlement _ _ _ _ _ hfree =>
    rw [hfree] at hchange
    cases hchange
  | other _ _ _ hsame _ =>
    rcases hsame with hfree | hsame
    · rw [hfree] at hchange
      cases hchange
    · exact Or.inl (hsame.symm.trans hchange)

/-- The next number never falls. -/
theorem nextId_le (h : s.Effect) : s.bench.store.nextId ≤ s.after.store.nextId := by
  cases h with
  | refused _ hafter _ _ => rw [hafter]
  | change _ _ _ _ hnext _ => omega
  | settlement _ _ _ _ _ _ hnext _ => omega
  | other _ _ _ _ hnext => omega

end StoreStep.Effect

/-- The steps of a store that starts out with nothing in flight. -/
structure Chained (steps : List (StoreStep ε)) : Prop where
  effect : ∀ {i : Nat} {s : StoreStep ε}, steps[i]? = some s → s.Effect
  next : ∀ {i : Nat} {t : StoreStep ε}, steps[i + 1]? = some t →
    ∃ s, steps[i]? = some s ∧ t.bench = s.after
  idle : ∀ {t : StoreStep ε}, steps[0]? = some t → t.bench.store.inFlight = none

namespace Chained

variable {steps : List (StoreStep ε)} {i j n : Nat} {s t : StoreStep ε}

/-- A step that is not the last leaves what the next one meets. -/
theorem exists_next (h : Chained steps) (hs : steps[i]? = some s) (ht : steps[j]? = some t)
    (hij : i < j) : ∃ u, steps[i + 1]? = some u ∧ u.bench = s.after := by
  have hlt : i + 1 < steps.length := by
    have := (List.getElem?_eq_some_iff.1 ht).1
    omega
  have hu : steps[i + 1]? = some steps[i + 1] := List.getElem?_eq_getElem hlt
  obtain ⟨s', hs', hbench⟩ := h.next hu
  obtain rfl := Option.some.inj (hs.symm.trans hs')
  exact ⟨_, hu, hbench⟩

theorem nextId_le (h : Chained steps) (hs : steps[i]? = some s) (ht : steps[j]? = some t)
    (hij : i ≤ j) : s.bench.store.nextId ≤ t.bench.store.nextId := by
  induction j, hij using Nat.le_induction generalizing t with
  | base =>
    obtain rfl := Option.some.inj (hs.symm.trans ht)
    exact Nat.le_refl _
  | succ j hij ih =>
    obtain ⟨u, hu, hbench⟩ := h.next ht
    rw [hbench]
    exact (ih hu).trans (h.effect hu).nextId_le

/-- Later steps see only numbers above one that has been given out. -/
theorem issued_lt (h : Chained steps) (hs : steps[i]? = some s) (ht : steps[j]? = some t)
    (hissued : s.issued = some n) (hij : i < j) : n < t.bench.store.nextId := by
  obtain ⟨u, hu, hbench⟩ := h.exists_next hs ht hij
  have hle := h.nextId_le hu ht hij
  obtain ⟨-, -, -, hnext⟩ := (h.effect hs).of_issued hissued
  rw [hbench, hnext] at hle
  exact hle

/-- No number is given out twice. -/
theorem issued_once (h : Chained steps) (hs : steps[i]? = some s) (ht : steps[j]? = some t)
    (hissued : s.issued = some n) (hagain : t.issued = some n) : i = j := by
  have hfirst := ((h.effect hs).of_issued hissued).1
  have hlast := ((h.effect ht).of_issued hagain).1
  rcases Nat.lt_trichotomy i j with hlt | heq | hlt
  · have := h.issued_lt hs ht hissued hlt
    omega
  · exact heq
  · have := h.issued_lt ht hs hagain hlt
    omega

/-- **The change in flight has been made by an earlier step, and has been in flight since.** -/
theorem exists_issued (h : Chained steps) {change : InFlight} (ht : steps[j]? = some t)
    (hchange : t.bench.store.inFlight = some change) :
    ∃ k a, k < j ∧ steps[k]? = some a ∧ a.issued = some change.id ∧
      change.prior = a.bench.store.current ∧
      ∀ m u, k < m → m ≤ j → steps[m]? = some u → u.bench.store.inFlight = some change := by
  induction j generalizing t with
  | zero =>
    rw [h.idle ht] at hchange
    cases hchange
  | succ j ih =>
    obtain ⟨s, hs, hbench⟩ := h.next ht
    have hthere := hchange
    rw [hbench] at hchange
    rcases (h.effect hs).of_inFlight hchange with hsame | ⟨hissued, hprior⟩
    · obtain ⟨k, a, hk, ha, hissued, hprior, hsince⟩ := ih hs hsame
      refine ⟨k, a, by omega, ha, hissued, hprior, fun m u hkm hmj hu => ?_⟩
      rcases Nat.lt_or_ge j m with hlt | hge
      · obtain rfl : m = j + 1 := by omega
        obtain rfl := Option.some.inj (ht.symm.trans hu)
        exact hthere
      · exact hsince m u hkm hge hu
    · refine ⟨j, s, by omega, hs, hissued, hprior, fun m u hjm hmj hu => ?_⟩
      obtain rfl : m = j + 1 := by omega
      obtain rfl := Option.some.inj (ht.symm.trans hu)
      exact hthere

/-- No number is accepted a second time. -/
theorem not_settled_again (h : Chained steps) (hs : steps[i]? = some s) (ht : steps[j]? = some t)
    (hsettled : s.settled = some n) (hij : i < j) : t.settled ≠ some n := by
  intro hagain
  obtain ⟨made, hmade, hid, hfree, -⟩ := (h.effect hs).of_settled hsettled
  obtain ⟨made', hmade', hid', -⟩ := (h.effect ht).of_settled hagain
  obtain ⟨k, a, hk, ha, hissued, -⟩ := h.exists_issued hs hmade
  obtain ⟨k', a', hk', ha', hissued', -, hsince⟩ := h.exists_issued ht hmade'
  rw [hid] at hissued
  rw [hid'] at hissued'
  obtain rfl := h.issued_once ha ha' hissued hissued'
  -- so the change would still be in flight right behind the first settlement
  obtain ⟨u, hu, hbench⟩ := h.exists_next hs ht hij
  have hstill := hsince (i + 1) _ (by omega) hij hu
  rw [hbench, hfree] at hstill
  cases hstill

theorem settled_once (h : Chained steps) (hs : steps[i]? = some s) (ht : steps[j]? = some t)
    (hsettled : s.settled = some n) (hagain : t.settled = some n) : i = j := by
  rcases Nat.lt_trichotomy i j with hlt | heq | hlt
  · exact absurd hagain (h.not_settled_again hs ht hsettled hlt)
  · exact heq
  · exact absurd hsettled (h.not_settled_again ht hs hagain hlt)

end Chained

/-! ### Every history -/

section

variable {path text : String} {w : World ε} {policy : RestorePolicy}

/-- The store keeps its word before and after every step. -/
theorem Accounted.steps {a : Account} {b : Workbench} (h : Accounted path text policy a b w)
    {actions : List StoreAction} {s : StoreStep ε} (hs : s ∈ b.steps w actions) :
    (∃ a', Accounted path text policy a' s.bench s.world) ∧
      ∃ a', Accounted path text policy a' s.after s.left := by
  induction actions generalizing a b w with
  | nil => cases hs
  | cons action actions ih =>
    obtain ⟨went, b', w', hrun, hafter⟩ := h.perform action
    obtain ⟨-, hb, hw⟩ := StoreStep.of_run (s := ⟨b, w, action⟩) hrun
    have hleft : Accounted path text policy (a.record action went)
        (⟨b, w, action⟩ : StoreStep ε).after (⟨b, w, action⟩ : StoreStep ε).left := by
      rw [hb, hw]
      exact hafter
    rw [Workbench.steps] at hs
    rcases List.mem_cons.1 hs with rfl | hs
    · exact ⟨⟨a, h⟩, _, hleft⟩
    · exact ih hleft hs

/-- The steps of a history. -/
theorem chained_steps (h : Holds path text w) (policy : RestorePolicy)
    (actions : List StoreAction) :
    Chained (Workbench.steps { store := .ofText path text policy } w actions) := by
  have hopen := accounted_ofText h policy
  refine ⟨?_, ?_, ?_⟩
  · intro i s hs
    obtain ⟨⟨a, haccounted⟩, -⟩ := hopen.steps (List.mem_of_getElem? hs)
    exact haccounted.effect
  · intro i t ht
    obtain ⟨s, hs, hbench, -⟩ := Workbench.exists_step_before ht
    exact ⟨s, hs, hbench⟩
  · intro t ht
    rw [(Workbench.first_step ht).1]
    rfl

/-- **A number is accepted once, and by its own change.**  Take any history of a store whose file
can be written, with whatever numbers.  What fails has changed nothing: neither the store with its
snapshots nor the world.  A change is made only while no other is in flight, and every change
gets a number of its own.  A number is accepted exactly while the change in flight has it; that
change was then made by an earlier step, has been in flight ever since, and undoing it brings back
the snapshot and the file that this step met.  And no number is accepted twice. -/
theorem useStore_handles (h : Holds path text w) (policy : RestorePolicy)
    (actions : List StoreAction) :
    let steps := Workbench.steps { store := .ofText path text policy } w actions
    (∃ b w', (useStore path policy actions).run w = (.ok (steps.map StoreStep.went, b), w')) ∧
    (∀ s ∈ steps, s.went = false → s.after = s.bench ∧ s.left = s.world) ∧
    (∀ s ∈ steps, ∀ n, s.issued = some n → s.bench.store.inFlight = none) ∧
    (∀ (i j : Nat) s t n, steps[i]? = some s → steps[j]? = some t →
      s.issued = some n → t.issued = some n → i = j) ∧
    (∀ s ∈ steps, ∀ n, s.action = .commit n ∨ s.action = .revert n →
      (s.settled = some n ↔ ∃ made, s.bench.store.inFlight = some made ∧ made.id = n)) ∧
    (∀ (i : Nat) s n, steps[i]? = some s → s.settled = some n →
      ∃ k a, k < i ∧ steps[k]? = some a ∧ a.issued = some n ∧
        (∀ j t, k < j → j ≤ i → steps[j]? = some t →
          t.bench.store.inFlight = some ⟨n, a.bench.store.current⟩) ∧
        (s.action = .revert n → s.after.store.current = a.bench.store.current ∧
          Holds path a.bench.store.source a.world ∧ Holds path a.bench.store.source s.left)) ∧
    (∀ (i j : Nat) s t n, steps[i]? = some s → steps[j]? = some t →
      s.settled = some n → t.settled = some n → i = j) := by
  intro steps
  have hchained := chained_steps h policy actions
  have hopen := accounted_ofText h policy
  have heffect : ∀ s ∈ steps, s.Effect := fun s hs => by
    obtain ⟨⟨a, haccounted⟩, -⟩ := hopen.steps hs
    exact haccounted.effect
  refine ⟨?_, ?_, ?_, ?_, ?_, ?_, ?_⟩
  · obtain ⟨b, w', hrun⟩ := Workbench.run_performAll { store := .ofText path text policy } w actions
    exact ⟨b, w', run_useStore h hrun⟩
  · intro s hs hwent
    cases heffect s hs with
    | refused _ hafter hleft _ => exact ⟨hafter, hleft⟩
    | change htrue => exact absurd (hwent.symm.trans htrue) Bool.false_ne_true
    | settlement _ _ htrue => exact absurd (hwent.symm.trans htrue) Bool.false_ne_true
    | other htrue => exact absurd (hwent.symm.trans htrue) Bool.false_ne_true
  · intro s hs n hissued
    exact ((heffect s hs).of_issued hissued).2.1
  · intro i j s t n hs ht hissued hagain
    exact hchained.issued_once hs ht hissued hagain
  · intro s hs n haction
    constructor
    · intro hsettled
      obtain ⟨made, hmade, hid, -⟩ := (heffect s hs).of_settled hsettled
      exact ⟨made, hmade, hid⟩
    · rintro ⟨made, hmade, rfl⟩
      obtain ⟨⟨_, hmet⟩, -⟩ := hopen.steps hs
      exact StoreStep.settled_of_inFlight hmet.holds_path hmade haction
  · intro i s n hs hsettled
    obtain ⟨made, hmade, rfl, -, hrestored⟩ := (hchained.effect hs).of_settled hsettled
    obtain ⟨k, a, hk, ha, hissued, hprior, hsince⟩ := hchained.exists_issued hs hmade
    refine ⟨k, a, hk, ha, hissued, ?_, ?_⟩
    · intro j t hkj hji ht
      rw [← hprior]
      exact hsince j t hkj hji ht
    · intro haction
      have hcurrent := (hrestored haction).trans hprior
      obtain ⟨⟨_, hmet⟩, -⟩ := hopen.steps (List.mem_of_getElem? ha)
      obtain ⟨-, _, hleft⟩ := hopen.steps (List.mem_of_getElem? hs)
      have hsource := hleft.holds
      rw [PatchStore.source, hcurrent] at hsource
      exact ⟨hcurrent, hmet.holds, hsource⟩
  · intro i j s t n hs ht hsettled hagain
    exact hchained.settled_once hs ht hsettled hagain

/-- A change that is undone, with a number used twice, and another one that is kept. -/
def smallTurns : List StoreAction :=
  [.apply (smallPatch "assume(n > 1);"), .apply (smallPatch "assume(n < 9);"), .revert 2,
    .takeSnapshot, .revert 1, .revert 1, .apply (smallPatch "assume(n < 9);"), .commit 1, .commit 2]

theorem useStore_handles_smallTurns :
    let steps := Workbench.steps { store := .ofText "harness.c" smallHarness .keepChanges }
      smallWorld smallTurns
    Holds "harness.c" smallHarness smallWorld ∧
      steps.map StoreStep.issued =
        [some 1, none, none, none, none, none, some 2, none, none] ∧
      steps.map StoreStep.settled =
        [none, none, none, none, some 1, none, none, none, some 2] ∧
      ∀ s ∈ steps, s.went = false → s.after = s.bench ∧ s.left = s.world := by
  intro steps
  exact ⟨holds_smallHarness, by decide +kernel, by decide +kernel,
    (useStore_handles holds_smallHarness .keepChanges smallTurns).2.1⟩

end

end HarnessRepair

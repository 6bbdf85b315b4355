import HarnessRepair.Proofs.Session.Standing
import HarnessRepair.Proofs.Session.Turn
import Mathlib.Data.List.Nodup

/-!
# The ledger in the course of a session

A ledger only grows: entries stay where they are, histories get longer, and an entry
that is done with does not change any more.  In between every finding stands well, and
one that went away with another has that one in front of it.

## Main definitions

* `LedgerEntry.Grows`, `Ledger.Grows` — what may become of entries, and of ledgers.
* `Ledger.InOrder` — all findings stand well, and each that went away with another
  stands behind it.
* `Ledger.AtWork` — where the finding at work stands.
* `Ledger.Settled`, `Ledger.Taken` — what becomes of a ledger when a change is kept, before
  and after the report on it is taken in.
* `Ledger.Orderly` — what can be seen of the order at any time.

## Main results

* `Ledger.Working.noted`, `Ledger.Working.failed`, `Ledger.Working.givenUp`,
  `Ledger.Working.confirmed` — **every step of a session keeps a ledger in order and
  lets it grow.**
* `Ledger.Queued.orderly`, `Ledger.Working.orderly` — so it is orderly throughout.
-/

namespace HarnessRepair

/-! ### Growing -/

/-- What may become of an entry. -/
structure LedgerEntry.Grows (e e' : LedgerEntry) : Prop where
  id_eq : e'.record.findingId = e.record.findingId
  /-- Rounds are added to the history, and none is changed. -/
  history : e.record.history <+: e'.record.history
  /-- What is done with stays as it is. -/
  done : e.Done → e' = e

namespace LedgerEntry.Grows

variable {d e f : LedgerEntry}

theorem refl (e : LedgerEntry) : e.Grows e := ⟨rfl, List.prefix_refl _, fun _ => rfl⟩

theorem trans (h : d.Grows e) (h' : e.Grows f) : d.Grows f where
  id_eq := h'.id_eq.trans h.id_eq
  history := h.history.trans h'.history
  done := by
    intro hd
    obtain rfl := h.done hd
    exact h'.done hd

/-- An entry that is not done with may change in all but its finding and what its history
has so far. -/
theorem of_open (hopen : ¬ d.Done) (hid : e.record.findingId = d.record.findingId)
    (hhistory : d.record.history <+: e.record.history) : d.Grows e :=
  ⟨hid, hhistory, fun hd => absurd hd hopen⟩

end LedgerEntry.Grows

namespace Ledger

open LedgerEntry

/-- What may become of a ledger: entries stay where they are, and others come behind them. -/
def Grows (l l' : Ledger) : Prop :=
  ∀ (i : Nat) (e : LedgerEntry), l[i]? = some e → ∃ e', l'[i]? = some e' ∧ e.Grows e'

namespace Grows

variable {l m n : Ledger}

theorem refl (l : Ledger) : l.Grows l := fun _ e he => ⟨e, he, .refl e⟩

theorem trans (h : l.Grows m) (h' : m.Grows n) : l.Grows n := by
  intro i e he
  obtain ⟨e', he', hgrows⟩ := h i e he
  obtain ⟨e'', he'', hgrows'⟩ := h' i e' he'
  exact ⟨e'', he'', hgrows.trans hgrows'⟩

theorem nil (l : Ledger) : Grows [] l := by
  intro i e he
  simp at he

theorem push (l : Ledger) (d : LedgerEntry) : l.Grows (l ++ [d]) := by
  intro i e he
  have hi := (List.getElem?_eq_some_iff.1 he).1
  exact ⟨e, by rw [List.getElem?_append_left hi, he], .refl e⟩

theorem map {g : LedgerEntry → LedgerEntry} (hg : ∀ e ∈ l, e.Grows (g e)) : l.Grows (l.map g) := by
  intro i e he
  refine ⟨g e, ?_, hg e (List.mem_of_getElem? he)⟩
  rw [List.getElem?_map, he]
  rfl

/-- An entry of the smaller ledger is in the larger one, under the same finding. -/
theorem mem (h : l.Grows m) {e : LedgerEntry} (he : e ∈ l) : ∃ e' ∈ m, e.Grows e' := by
  obtain ⟨i, hi⟩ := List.mem_iff_getElem?.1 he
  obtain ⟨e', he', hgrows⟩ := h i e hi
  exact ⟨e', List.mem_of_getElem? he', hgrows⟩

end Grows

/-! ### Order -/

/-- All findings stand well under the budget `b`, and each that went away with another
stands behind that one, which was resolved by a patch of its own. -/
structure InOrder (b : Attempts) (l : Ledger) : Prop where
  standing : ∀ e ∈ l, e.record.Standing b
  attributed : ∀ (i : Nat) (e : LedgerEntry) id, l[i]? = some e →
    e.record.resolvedBy = some id →
    ∃ (j : Nat) (d : LedgerEntry), j < i ∧ l[j]? = some d ∧ d.record.findingId = id ∧
      d.isDirect = true

variable {b : Attempts} {l : Ledger} {id : FindingId}

theorem inOrder_nil (b : Attempts) : InOrder b [] where
  standing := fun e he => by cases he
  attributed := fun i e id he => by simp at he

/-- Changing the entry of a finding changes it where it stands. -/
theorem Filed.update_set (h : Filed l) {k : Nat} {e : LedgerEntry} (hk : l[k]? = some e)
    (g : LedgerEntry → LedgerEntry) : l.update e.record.findingId g = l.set k (g e) := by
  have hlt := (List.getElem?_eq_some_iff.1 hk).1
  refine List.ext_getElem? fun i => ?_
  rw [Ledger.update, List.getElem?_map, List.getElem?_set]
  by_cases hi : k = i
  · subst hi
    rw [if_pos rfl, if_pos hlt, hk, Option.map_some, if_pos rfl]
  · rw [if_neg hi]
    cases hd : l[i]? with
    | none => rfl
    | some d =>
      have hne : d.record.findingId ≠ e.record.findingId := by
        intro heq
        refine hi ((List.getElem?_inj (by rw [ids, List.length_map]; exact hlt) h.nodup).1 ?_)
        rw [ids, List.getElem?_map, List.getElem?_map, hk, hd, Option.map_some, Option.map_some,
          heq]
      rw [Option.map_some, if_neg hne]

theorem Grows.set {k : Nat} {e e' : LedgerEntry} (hk : l[k]? = some e) (hgrows : e.Grows e') :
    l.Grows (l.set k e') := by
  intro i d hd
  by_cases hi : k = i
  · subst hi
    obtain rfl := Option.some.inj (hd.symm.trans hk)
    exact ⟨e', List.getElem?_set_self (List.getElem?_eq_some_iff.1 hd).1, hgrows⟩
  · exact ⟨d, by rw [List.getElem?_set_ne hi, hd], .refl d⟩

/-- An entry that has not resolved its finding may become another one that stands well. -/
theorem InOrder.set (h : InOrder b l) {k : Nat} {e e' : LedgerEntry} (hk : l[k]? = some e)
    (hdirect : e.isDirect = false) (hby : e'.record.resolvedBy = none)
    (hstanding : e'.record.Standing b) : InOrder b (l.set k e') where
  standing := by
    intro d hd
    rcases List.mem_or_eq_of_mem_set hd with hd | rfl
    · exact h.standing d hd
    · exact hstanding
  attributed := by
    intro i d id' hd hby'
    by_cases hi : k = i
    · subst hi
      rw [List.getElem?_set_self (List.getElem?_eq_some_iff.1 hk).1] at hd
      obtain rfl := Option.some.inj hd
      rw [hby] at hby'
      cases hby'
    · rw [List.getElem?_set_ne hi] at hd
      obtain ⟨j, f, hj, hf, hid, hfdirect⟩ := h.attributed i d id' hd hby'
      refine ⟨j, f, hj, ?_, hid, hfdirect⟩
      have hne : k ≠ j := by
        rintro rfl
        obtain rfl := Option.some.inj (hf.symm.trans hk)
        rw [hdirect] at hfdirect
        cases hfdirect
      rw [List.getElem?_set_ne hne, hf]

/-! ### The finding at work -/

/-- The finding at work has the `k`-th entry `e`: in front of it all is done with, and behind
it nothing has been worked on. -/
structure AtWork (id : FindingId) (l : Ledger) (k : Nat) (e : LedgerEntry) : Prop where
  filed : Filed l
  entry : l[k]? = some e
  id_eq : e.record.findingId = id
  state_eq : e.record.state = .inProgress
  front : ∀ (i : Nat) (d : LedgerEntry), l[i]? = some d → i < k → d.Done
  behind : ∀ (i : Nat) (d : LedgerEntry), l[i]? = some d → k < i → d.Untouched

theorem Working.atWork (h : Working id l) : ∃ k e, AtWork id l k e := by
  have hfiled := h.filed
  obtain ⟨before, e, after, rfl, rfl, hstate, -, hbefore, hafter⟩ := h.split
  refine ⟨before.length, e, hfiled, by simp, rfl, hstate, ?_, ?_⟩
  · intro i d hd hi
    rw [List.getElem?_append_left hi] at hd
    exact hbefore d (List.mem_of_getElem? hd)
  · intro i d hd hi
    obtain ⟨n, rfl⟩ : ∃ n, i = before.length + (n + 1) := ⟨i - before.length - 1, by omega⟩
    rw [List.getElem?_append_right (by omega), Nat.add_sub_cancel_left,
      List.getElem?_cons_succ] at hd
    exact hafter d (List.mem_of_getElem? hd)

namespace AtWork

variable {k : Nat} {e : LedgerEntry}

theorem update_eq (h : AtWork id l k e) (g : LedgerEntry → LedgerEntry) :
    l.update id g = l.set k (g e) := by
  rw [← h.id_eq]
  exact h.filed.update_set h.entry g

theorem find?_eq (h : AtWork id l k e) : l.find? id = some e :=
  h.filed.find?_eq_some_iff.2 ⟨List.mem_of_getElem? h.entry, h.id_eq⟩

theorem not_done (h : AtWork id l k e) : ¬ e.Done := by
  rw [Done, h.state_eq]
  exact Bool.false_ne_true

theorem isDirect_eq (h : AtWork id l k e) : e.isDirect = false := by
  refine isDirect_eq_false ?_
  rw [h.state_eq]
  exact FindingState.noConfusion

theorem standing (h : AtWork id l k e) (ho : InOrder b l) : e.record.Standing b :=
  ho.standing e (List.mem_of_getElem? h.entry)

theorem resolvedBy_eq (h : AtWork id l k e) (ho : InOrder b l) : e.record.resolvedBy = none :=
  ((h.standing ho).inProgress h.state_eq).1

/-- A finding that waits stands behind it. -/
theorem lt_of_pending (h : AtWork id l k e) {i : Nat} {d : LedgerEntry} (hd : l[i]? = some d)
    (hpending : d.record.state = .pending) : k < i := by
  rcases Nat.lt_trichotomy i k with hi | rfl | hi
  · have hdone := h.front i d hd hi
    rw [Done, hpending] at hdone
    cases hdone
  · obtain rfl := Option.some.inj (hd.symm.trans h.entry)
    have hstate := h.state_eq
    rw [hpending] at hstate
    cases hstate
  · exact hi

/-- What becomes of the record at work. -/
theorem change (h : AtWork id l k e) (ho : InOrder b l) {f : AttemptRecord → AttemptRecord}
    (hid : (f e.record).findingId = e.record.findingId)
    (hby : (f e.record).resolvedBy = e.record.resolvedBy)
    (hhistory : e.record.history <+: (f e.record).history)
    (hstanding : (f e.record).Standing b) :
    InOrder b (l.updateRecord id f) ∧ l.Grows (l.updateRecord id f) := by
  rw [updateRecord, h.update_eq]
  exact ⟨ho.set h.entry h.isDirect_eq (hby.trans (h.resolvedBy_eq ho)) hstanding,
    .set h.entry (.of_open h.not_done hid hhistory)⟩

end AtWork

/-! ### Steps at work -/

theorem Quiet.mild {g : LedgerEntry → LedgerEntry} (hg : Quiet id g) : Mild id g where
  id_eq := hg.id_eq
  state_eq := by
    intro e
    obtain ⟨runs, usage, hrec⟩ := hg.record_eq e
    rw [hrec]
  resolvedBy_eq := by
    intro e
    obtain ⟨runs, usage, hrec⟩ := hg.record_eq e
    rw [hrec]
  kept_eq := by
    intro e
    obtain ⟨runs, usage, hrec⟩ := hg.record_eq e
    rw [hrec]
  named := hg.named

/-- The first finding that waits is taken up. -/
theorem Queued.taken (h : Queued l) (ho : InOrder b l) (hnext : l.nextPending? = some id) :
    InOrder b (l.updateRecord id fun r => { r with state := .inProgress }) ∧
      l.Grows (l.updateRecord id fun r => { r with state := .inProgress }) := by
  rw [nextPending?, Option.map_eq_some_iff] at hnext
  obtain ⟨e, hfind, rfl⟩ := hnext
  have hfound := List.find?_some hfind
  have hpending : e.record.state = .pending := beq_iff_eq.1 hfound
  obtain ⟨k, hk⟩ := List.mem_iff_getElem?.1 (List.mem_of_find?_eq_some hfind)
  have hstanding := ho.standing e (List.mem_of_getElem? hk)
  have hdirect : e.isDirect = false := by
    refine isDirect_eq_false ?_
    rw [hpending]
    exact FindingState.noConfusion
  have hopen : ¬ e.Done := by
    rw [Done, hpending]
    exact Bool.false_ne_true
  rw [updateRecord, h.filed.update_set hk]
  exact ⟨ho.set hk hdirect (hstanding.pending hpending).1 (hstanding.begin hpending),
    .set hk (.of_open hopen rfl (List.prefix_refl _))⟩

namespace Working

variable {m : Ledger}

/-- Counters change, or the finding is seen again. -/
theorem noted (h : Working id l) (ho : InOrder b l) (hm : l.Noted id m) :
    Working id m ∧ InOrder b m ∧ l.Grows m := by
  obtain ⟨g, hg, rfl⟩ := hm
  obtain ⟨k, e, hat⟩ := h.atWork
  obtain ⟨runs, usage, hrec⟩ := hg.record_eq e
  refine ⟨(h.update (Quiet.mild hg)).1, ?_, ?_⟩
  · rw [hat.update_eq]
    refine ho.set hat.entry hat.isDirect_eq ?_ ?_
    · rw [hrec]
      exact hat.resolvedBy_eq ho
    · rw [hrec]
      exact (hat.standing ho).recount runs usage
  · rw [hat.update_eq]
    refine .set hat.entry (.of_open hat.not_done (hg.id_eq e) ?_)
    simp only [hrec, List.prefix_refl]

/-- A round has failed. -/
theorem failed (h : Working id l) (ho : InOrder b l) (cause : FailureCause)
    (statements : List String) :
    Working id (l.updateRecord id fun r => r.charge (some cause) statements b) ∧
      InOrder b (l.updateRecord id fun r => r.charge (some cause) statements b) ∧
      l.Grows (l.updateRecord id fun r => r.charge (some cause) statements b) := by
  obtain ⟨k, e, hat⟩ := h.atWork
  have hworking := (h.updateRecord (fun r => r.charge (some cause) statements b) (fun _ => rfl)
    (fun _ => rfl) (fun _ => rfl) fun _ => rfl).1
  exact ⟨hworking, hat.change ho rfl rfl (List.prefix_append _ _)
    ((hat.standing ho).fail hat.state_eq cause statements)⟩

/-- The finding is given up. -/
theorem givenUp (h : Working id l) (ho : InOrder b l)
    (hspent : ∀ e, l.find? id = some e → ¬ e.record.hasBudget b = true) :
    Queued (l.updateRecord id fun r => { r with state := Session.spentState r }) ∧
      InOrder b (l.updateRecord id fun r => { r with state := Session.spentState r }) ∧
      l.Grows (l.updateRecord id fun r => { r with state := Session.spentState r }) := by
  obtain ⟨k, e, hat⟩ := h.atWork
  have hqueued := (h.finish (fun r => { r with state := Session.spentState r }) (fun _ => rfl)
    fun r => (Session.spentState_ne_resolved r).2).1
  exact ⟨hqueued, hat.change ho rfl rfl (List.prefix_refl _)
    ((hat.standing ho).giveUp hat.state_eq (hspent e hat.find?_eq))⟩

end Working

/-! ### Taking findings in -/

/-- What taking in some findings makes of the ledger `l`. -/
structure Entered (fs : List Finding) (l l' : Ledger) : Prop where
  /-- No record changes. -/
  records : ∀ (i : Nat) (e : LedgerEntry), l[i]? = some e →
    ∃ e', l'[i]? = some e' ∧ e'.record = e.record
  /-- What comes behind them is new and waits. -/
  fresh : ∀ (i : Nat) (e : LedgerEntry), l'[i]? = some e → l[i]? = none →
    ∃ f ∈ fs, e.record = { findingId := f.id }
  /-- Every finding has a record. -/
  known : ∀ f ∈ fs, ∃ e ∈ l', e.record.findingId = f.id
  grows : l.Grows l'

theorem Entered.nil (l : Ledger) : Entered [] l l where
  records := fun _ e he => ⟨e, he, rfl⟩
  fresh := by
    intro i e he hnone
    rw [he] at hnone
    cases hnone
  known := fun f hf => by cases hf
  grows := .refl l

theorem Entered.cons {f : Finding} {fs : List Finding} {m n : Ledger}
    (h : Entered [f] l m) (h' : Entered fs m n) : Entered (f :: fs) l n where
  records := by
    intro i e he
    obtain ⟨e', he', hrec⟩ := h.records i e he
    obtain ⟨e'', he'', hrec'⟩ := h'.records i e' he'
    exact ⟨e'', he'', hrec'.trans hrec⟩
  fresh := by
    intro i e he hnone
    cases hm : m[i]? with
    | none =>
      obtain ⟨g, hg, hrec⟩ := h'.fresh i e he hm
      exact ⟨g, List.mem_cons_of_mem _ hg, hrec⟩
    | some d =>
      obtain ⟨g, hg, hrec⟩ := h.fresh i d hm hnone
      obtain ⟨e', he', hrec'⟩ := h'.records i d hm
      obtain rfl := Option.some.inj (he.symm.trans he')
      rw [List.mem_singleton.1 hg] at hrec
      exact ⟨f, List.mem_cons_self, hrec'.trans hrec⟩
  known := by
    intro g hg
    rcases List.mem_cons.1 hg with rfl | hg
    · obtain ⟨e, he, hid⟩ := h.known g List.mem_cons_self
      obtain ⟨e', he', hgrows⟩ := h'.grows.mem he
      exact ⟨e', he', hgrows.id_eq.trans hid⟩
    · exact h'.known g hg
  grows := h.grows.trans h'.grows

theorem Entered.inOrder {fs : List Finding} {m : Ledger} (h : Entered fs l m)
    (ho : InOrder b l) : InOrder b m where
  standing := by
    intro e he
    obtain ⟨i, hi⟩ := List.mem_iff_getElem?.1 he
    cases hl : l[i]? with
    | none =>
      obtain ⟨f, -, hrec⟩ := h.fresh i e hi hl
      rw [hrec]
      exact AttemptRecord.standing_new b f.id
    | some d =>
      obtain ⟨e', he', hrec⟩ := h.records i d hl
      obtain rfl := Option.some.inj (hi.symm.trans he')
      rw [hrec]
      exact ho.standing d (List.mem_of_getElem? hl)
  attributed := by
    intro i e id he hby
    cases hl : l[i]? with
    | none =>
      obtain ⟨f, -, hrec⟩ := h.fresh i e he hl
      rw [hrec] at hby
      cases hby
    | some d =>
      obtain ⟨e', he', hrec⟩ := h.records i d hl
      obtain rfl := Option.some.inj (he.symm.trans he')
      rw [hrec] at hby
      obtain ⟨j, f, hj, hf, hid, hdirect⟩ := ho.attributed i d id hl hby
      obtain ⟨f', hf', hsame⟩ := h.records j f hf
      refine ⟨j, f', hj, hf', ?_, ?_⟩
      · rw [hsame, hid]
      · rw [isDirect_eq_true_iff] at hdirect ⊢
        rwa [hsame]

/-- One finding is taken in. -/
theorem Filed.entered (h : Filed l) (f : Finding) : Entered [f] l (l.enter f) := by
  rw [enter]
  cases hf : l.find? f.id with
  | none =>
    have htrack : l.track f = l ++ [⟨{ findingId := f.id }, f⟩] := by rw [track, hf]
    dsimp only
    rw [htrack]
    refine ⟨?_, ?_, ?_, .push l _⟩
    · intro i e he
      have hi := (List.getElem?_eq_some_iff.1 he).1
      exact ⟨e, by rw [List.getElem?_append_left hi, he], rfl⟩
    · intro i e he hnone
      rw [List.getElem?_append_right (List.getElem?_eq_none_iff.1 hnone)] at he
      obtain rfl := List.mem_singleton.1 (List.mem_of_getElem? he)
      exact ⟨f, List.mem_cons_self, rfl⟩
    · intro g hg
      rw [List.mem_singleton.1 hg]
      exact ⟨_, List.mem_append_right _ List.mem_cons_self, rfl⟩
  | some e =>
    obtain ⟨hmem, hid⟩ := h.find?_eq_some_iff.1 hf
    dsimp only
    by_cases hdone : e.record.state.isTerminal = true
    · rw [if_pos hdone]
      have hnil := Entered.nil l
      refine ⟨hnil.records, fun i d hd hnone => ?_, ?_, hnil.grows⟩
      · rw [hd] at hnone
        cases hnone
      · intro g hg
        rw [List.mem_singleton.1 hg]
        exact ⟨e, hmem, hid⟩
    · rw [if_neg hdone]
      have hmap : ∀ i : Nat, (l.observe f)[i]? = (l[i]?).map fun d : LedgerEntry =>
          if d.record.findingId = f.id then { d with finding := f } else d := by
        intro i
        rw [observe, Ledger.update, List.getElem?_map]
      have hsame : ∀ d : LedgerEntry, (if d.record.findingId = f.id then
          { d with finding := f } else d).record = d.record := by
        intro d
        split <;> rfl
      refine ⟨?_, ?_, ?_, ?_⟩
      · intro i d hd
        exact ⟨_, by rw [hmap, hd, Option.map_some], hsame d⟩
      · intro i d hd hnone
        rw [hmap, hnone] at hd
        cases hd
      · intro g hg
        rw [List.mem_singleton.1 hg]
        exact ⟨_, List.mem_map_of_mem hmem, by rw [hsame, hid]⟩
      · refine .map fun d hd => ?_
        by_cases heq : d.record.findingId = f.id
        · obtain rfl := h.eq_of_id hd hmem (heq.trans hid.symm)
          rw [if_pos heq]
          exact .of_open hdone rfl (List.prefix_refl _)
        · rw [if_neg heq]
          exact .refl d

/-- Some findings are taken in one after the other. -/
theorem Queued.entered (h : Queued l) (fs : List Finding) :
    Queued (fs.foldl enter l) ∧ Entered fs l (fs.foldl enter l) := by
  induction fs generalizing l with
  | nil => exact ⟨h, .nil l⟩
  | cons f fs ih =>
    obtain ⟨hqueued, hentered⟩ := ih (Session.queued_enter h f).1
    exact ⟨hqueued, (h.filed.entered f).cons hentered⟩

/-- As long as all findings wait, a finding is tracked as it would be taken in later. -/
theorem foldl_track_eq (fs : List Finding) (h : ∀ e ∈ l, e.record.state = .pending) :
    fs.foldl track l = fs.foldl enter l := by
  -- the two differ in what is done with, and whatever is tracked waits
  induction fs generalizing l with
  | nil => rfl
  | cons f fs ih =>
    have hone : l.enter f = l.track f := by
      rw [enter, track]
      cases hf : l.find? f.id with
      | none => rfl
      | some e =>
        dsimp only
        rw [if_neg]
        rw [h e (List.mem_of_find?_eq_some hf)]
        exact Bool.false_ne_true
    rw [List.foldl_cons, List.foldl_cons, hone]
    refine ih fun e he => ?_
    rw [track] at he
    cases hf : l.find? f.id with
    | none =>
      rw [hf] at he
      rcases List.mem_append.1 he with he | he
      · exact h e he
      · rw [List.mem_singleton.1 he]
    | some d =>
      rw [hf] at he
      obtain ⟨d', hd', rfl⟩ := List.mem_map.1 he
      split <;> exact h d' hd'

/-! ### A report is taken in -/

/-- What waits and is not reported any more goes away with a finding that stands in front. -/
theorem InOrder.settle (h : InOrder b l) (id : FindingId) (present : List FindingId)
    (hfront : ∀ (i : Nat) (e : LedgerEntry), l[i]? = some e → e.record.state = .pending →
      ∃ (j : Nat) (d : LedgerEntry), j < i ∧ l[j]? = some d ∧ d.record.findingId = id ∧
        d.isDirect = true) :
    InOrder b (l.settle id present) ∧ l.Grows (l.settle id present) := by
  have hpending : ∀ e, isGone present e = true → e.record.state = .pending := by
    intro e hgone
    rw [isGone, Bool.and_eq_true, beq_iff_eq] at hgone
    exact hgone.1
  have hget : ∀ i : Nat, (l.settle id present)[i]? = (l[i]?).map fun e : LedgerEntry =>
      if isGone present e then
        { e with record := { e.record with state := .resolved, resolvedBy := some id } }
      else e := by
    intro i
    rw [Ledger.settle, List.getElem?_map]
  -- a finding that was resolved directly stays where it is
  have hstays : ∀ (j : Nat) (d : LedgerEntry), l[j]? = some d → d.isDirect = true →
      (l.settle id present)[j]? = some d := by
    intro j d hd hdirect
    rw [hget, hd, Option.map_some, if_neg]
    intro hgone
    have hstate := (isDirect_eq_true_iff.1 hdirect).1
    rw [hpending d hgone] at hstate
    cases hstate
  refine ⟨⟨?_, ?_⟩, .map fun e _ => ?_⟩
  · intro e he
    obtain ⟨d, hd, rfl⟩ := List.mem_map.1 he
    by_cases hgone : isGone present d = true
    · rw [if_pos hgone]
      exact (h.standing d hd).settle (hpending d hgone) id
    · rw [if_neg hgone]
      exact h.standing d hd
  · intro i e id' he hby
    rw [hget, Option.map_eq_some_iff] at he
    obtain ⟨d, hd, rfl⟩ := he
    by_cases hgone : isGone present d = true
    · rw [if_pos hgone] at hby
      obtain rfl := Option.some.inj hby
      obtain ⟨j, f, hj, hf, hid, hdirect⟩ := hfront i d hd (hpending d hgone)
      exact ⟨j, f, hj, hstays j f hf hdirect, hid, hdirect⟩
    · rw [if_neg hgone] at hby
      obtain ⟨j, f, hj, hf, hid, hdirect⟩ := h.attributed i d id' hd hby
      exact ⟨j, f, hj, hstays j f hf hdirect, hid, hdirect⟩
  · by_cases hgone : isGone present e = true
    · rw [if_pos hgone]
      refine .of_open ?_ rfl (List.prefix_refl _)
      rw [Done, hpending e hgone]
      exact Bool.false_ne_true
    · rw [if_neg hgone]
      exact .refl e

/-- What the report with the findings `others`, which confirmed that the finding `id` is
resolved, makes of the ledger `l`. -/
structure Taken (id : FindingId) (others : List Finding) (l m : Ledger) : Prop where
  /-- Every finding of the report has a record. -/
  known : ∀ f ∈ others, ∃ e ∈ m, e.record.findingId = f.id
  /-- What waits is resolved exactly if it is not reported any more. -/
  waiting : ∀ (i : Nat) (e : LedgerEntry), l[i]? = some e → e.record.state = .pending →
    ∃ e', m[i]? = some e' ∧ e'.record =
      if e.record.findingId ∈ others.map (·.id) then e.record
      else { e.record with state := .resolved, resolvedBy := some id }
  /-- The finding itself is resolved. -/
  resolver : ∃ e ∈ m, e.record.findingId = id ∧ e.isDirect = true
  /-- What comes behind is new and reported. -/
  fresh : ∀ (i : Nat) (e : LedgerEntry), m[i]? = some e → l[i]? = none →
    ∃ f ∈ others, e.record = { findingId := f.id }

/-- What waits is resolved if it is not reported any more. -/
theorem getElem?_settle_of_pending (resolver : FindingId) (present : List FindingId) {i : Nat}
    {d : LedgerEntry} (hd : l[i]? = some d) (hpending : d.record.state = .pending) :
    ∃ d', (l.settle resolver present)[i]? = some d' ∧ d'.record =
      if d.record.findingId ∈ present then d.record
      else { d.record with state := .resolved, resolvedBy := some resolver } := by
  rw [settle, List.getElem?_map, hd, Option.map_some]
  refine ⟨_, rfl, ?_⟩
  by_cases hmem : d.record.findingId ∈ present
  · have hkept : ¬ isGone present d = true := by simpa [isGone, hpending] using hmem
    rw [if_neg hkept, if_pos hmem]
  · have hgone : isGone present d = true := by simpa [isGone, hpending] using hmem
    rw [if_pos hgone, if_neg hmem]

/-- The finding with the `k`-th entry of `l` has been resolved where it stands. -/
structure Settled (id : FindingId) (l m : Ledger) (k : Nat) : Prop where
  resolver : ∃ e, m[k]? = some e ∧ e.record.findingId = id ∧ e.isDirect = true
  /-- What waits stands behind it and has not changed. -/
  waiting : ∀ (i : Nat) (d : LedgerEntry),
    d.record.state = .pending → (m[i]? = some d ↔ l[i]? = some d)
  behind : ∀ (i : Nat) (d : LedgerEntry), m[i]? = some d → d.record.state = .pending → k < i
  length_eq : m.length = l.length

/-- The finding at work is resolved by the change that has been made for it. -/
theorem AtWork.settled {k : Nat} {e : LedgerEntry} (h : AtWork id l k e) (ho : InOrder b l)
    {f : AttemptRecord → AttemptRecord} (hid : (f e.record).findingId = e.record.findingId)
    (hby : (f e.record).resolvedBy = e.record.resolvedBy)
    (hstate : (f e.record).state = .resolved) : Settled id l (l.updateRecord id f) k := by
  have hset : l.updateRecord id f = l.set k { e with record := f e.record } := by
    rw [Ledger.updateRecord, h.update_eq]
  have hresolver : (l.updateRecord id f)[k]? = some { e with record := f e.record } := by
    rw [hset, List.getElem?_set_self (List.getElem?_eq_some_iff.1 h.entry).1]
  have hwaiting : ∀ (i : Nat) (d : LedgerEntry), d.record.state = .pending →
      ((l.updateRecord id f)[i]? = some d ↔ l[i]? = some d) := by
    intro i d hpending
    by_cases hi : k = i
    · -- neither before nor afterwards does the finding itself wait
      subst hi
      constructor <;> intro hd
      · obtain rfl := Option.some.inj (hd.symm.trans hresolver)
        cases hpending.symm.trans hstate
      · exact absurd (h.lt_of_pending hd hpending) (Nat.lt_irrefl k)
    · rw [hset, List.getElem?_set_ne hi]
  refine
    { resolver := ⟨_, hresolver, hid.trans h.id_eq,
        isDirect_eq_true_iff.2 ⟨hstate, hby.trans (h.resolvedBy_eq ho)⟩⟩
      waiting := hwaiting
      behind := fun i d hd hpending => h.lt_of_pending ((hwaiting i d hpending).1 hd) hpending
      length_eq := ?_ }
  rw [hset, List.length_set]

/-- **A change is kept**, and the report that confirmed it is taken in. -/
theorem Working.confirmed (h : Working id l) (ho : InOrder b l) {statements : List String}
    (hne : statements ≠ []) (others : List Finding) :
    Queued (l.confirmed b id statements others) ∧
      InOrder b (l.confirmed b id statements others) ∧
      l.Grows (l.confirmed b id statements others) ∧
      Taken id others l (l.confirmed b id statements others) := by
  obtain ⟨k, e, hat⟩ := h.atWork
  let f : AttemptRecord → AttemptRecord := fun r =>
    { r.charge none statements b with state := .resolved, keptStatements := statements }
  -- the finding is resolved where it stands
  have hqueued : Queued (l.updateRecord id f) := (h.finish f (fun _ => rfl) fun _ => rfl).1
  obtain ⟨horder, hgrows⟩ := hat.change ho (f := f) rfl rfl (List.prefix_append _ _)
    ((hat.standing ho).resolve hat.state_eq hne)
  have hsettled : Settled id l (l.updateRecord id f) k := hat.settled ho rfl rfl rfl
  obtain ⟨d, hd, hid, hdirect⟩ := hsettled.resolver
  -- what waits stands behind it and may go away with it
  obtain ⟨horder', hgrows'⟩ := horder.settle id (others.map (·.id)) fun i d' hd' hpending =>
    ⟨k, d, hsettled.behind i d' hd' hpending, hd, hid, hdirect⟩
  -- then the findings of the report are taken in
  obtain ⟨hqueued', hentered⟩ := (hqueued.settle id (others.map (·.id))).1.entered others
  refine ⟨hqueued', hentered.inOrder horder', (hgrows.trans hgrows').trans hentered.grows,
    { known := hentered.known, waiting := ?_, resolver := ?_, fresh := ?_ }⟩
  · intro i d' hd' hpending
    obtain ⟨d'', hd'', hrec⟩ := getElem?_settle_of_pending id (others.map (·.id))
      ((hsettled.waiting i d' hpending).2 hd') hpending
    obtain ⟨last, hlast, heq⟩ := hentered.records i d'' hd''
    exact ⟨last, hlast, heq.trans hrec⟩
  · obtain ⟨last, hlast, hgrown⟩ := (hgrows'.trans hentered.grows) k d hd
    obtain rfl := hgrown.done (by rw [Done, (isDirect_eq_true_iff.1 hdirect).1]; rfl)
    exact ⟨_, List.mem_of_getElem? hlast, hid, hdirect⟩
  · intro i d' hd' hnone
    refine hentered.fresh i d' hd' ?_
    rw [List.getElem?_eq_none_iff] at hnone ⊢
    rwa [settle, List.length_map, hsettled.length_eq]

/-! ### Order, told without a budget -/

/-- How a ledger looks at any time of a session. -/
structure Orderly (l : Ledger) : Prop where
  /-- No finding has two records. -/
  nodup : (ids l).Nodup
  /-- Every record has its finding. -/
  named : ∀ e ∈ l, e.finding.id = e.record.findingId
  /-- One finding is worked on at most. -/
  single : ∀ (i j : Nat) (d e : LedgerEntry), l[i]? = some d → l[j]? = some e →
    d.record.state = .inProgress → e.record.state = .inProgress → i = j
  /-- A finding that went away with another has cost nothing, and the other stands in front
  of it, resolved by statements of its own. -/
  indirect : ∀ (i : Nat) (e : LedgerEntry) id, l[i]? = some e → e.record.resolvedBy = some id →
    e.record.state = .resolved ∧ e.record.attemptsSpent = .zero ∧ e.record.history = [] ∧
    ∃ (j : Nat) (d : LedgerEntry), j < i ∧ l[j]? = some d ∧ d.record.findingId = id ∧
      d.record.state = .resolved ∧ d.record.resolvedBy = none ∧ d.record.keptStatements ≠ []

theorem InOrder.orderly (h : InOrder b l) (hfiled : Filed l)
    (hsingle : ∀ (i j : Nat) (d e : LedgerEntry), l[i]? = some d → l[j]? = some e →
      d.record.state = .inProgress → e.record.state = .inProgress → i = j) : Orderly l where
  nodup := hfiled.nodup
  named := hfiled.named
  single := hsingle
  indirect := by
    intro i e id he hby
    have hne : e.record.resolvedBy ≠ none := by
      rw [hby]
      exact Option.some_ne_none _
    obtain ⟨hstate, hspent, hhistory⟩ := (h.standing e (List.mem_of_getElem? he)).indirect hne
    obtain ⟨j, d, hj, hd, hid, hdirect⟩ := h.attributed i e id he hby
    obtain ⟨hresolved, hnone⟩ := isDirect_eq_true_iff.1 hdirect
    exact ⟨hstate, hspent, hhistory, j, d, hj, hd, hid, hresolved, hnone,
      ((h.standing d (List.mem_of_getElem? hd)).direct hresolved hnone).1⟩

/-- A finding that is worked on is neither done with nor untouched. -/
theorem not_inProgress {e : LedgerEntry} (h : e.Done ∨ e.Untouched) :
    e.record.state ≠ .inProgress := by
  intro hstate
  rcases h with hdone | ⟨hpending, -⟩ | ⟨hresolved, -⟩
  · rw [Done, hstate] at hdone
    cases hdone
  · rw [hstate] at hpending
    cases hpending
  · rw [hstate] at hresolved
    cases hresolved

theorem Queued.orderly (h : Queued l) (ho : InOrder b l) : Orderly l := by
  refine ho.orderly h.filed fun i j d e hd _ hstate _ => absurd hstate (not_inProgress ?_)
  obtain ⟨before, after, rfl, hbefore, hafter⟩ := h.split
  exact (List.mem_append.1 (List.mem_of_getElem? hd)).imp (hbefore d) (hafter d)

theorem Working.orderly (h : Working id l) (ho : InOrder b l) : Orderly l := by
  obtain ⟨k, e, hat⟩ := h.atWork
  have hplace : ∀ (i : Nat) (d : LedgerEntry), l[i]? = some d → d.record.state = .inProgress →
      i = k := by
    intro i d hd hstate
    rcases Nat.lt_trichotomy i k with hi | hi | hi
    · exact absurd hstate (not_inProgress (Or.inl (hat.front i d hd hi)))
    · exact hi
    · exact absurd hstate (not_inProgress (Or.inr (hat.behind i d hd hi)))
  refine ho.orderly h.filed fun i j d f hd hf hstate hstate' => ?_
  rw [hplace i d hd hstate, hplace j f hf hstate']

/-! ### The end of a session that cannot go on -/

/-- Ending what is left changes the state of what is not done with, and nothing else. -/
theorem blockRemaining_grows (l : Ledger) : l.Grows l.blockRemaining := by
  refine .map fun e _ => ?_
  by_cases hdone : e.record.state.isTerminal = true
  · rw [if_pos hdone]
    exact .refl e
  · rw [if_neg hdone]
    exact .of_open hdone rfl (List.prefix_refl _)

theorem Orderly.blockRemaining (h : Orderly l) : Orderly l.blockRemaining where
  nodup := by
    rw [ids, findingIds_blockRemaining]
    exact h.nodup
  named := by
    intro e he
    obtain ⟨d, hd, rfl⟩ := List.mem_map.1 he
    have hname := h.named d hd
    split <;> exact hname
  single := by
    intro i j d e hd _ hstate
    have hdone := isTerminal_of_mem_blockRemaining (List.mem_of_getElem? hd)
    rw [hstate] at hdone
    cases hdone
  indirect := by
    intro i e id he hby
    rw [Ledger.blockRemaining, List.getElem?_map, Option.map_eq_some_iff] at he
    obtain ⟨d, hd, rfl⟩ := he
    have hby' : d.record.resolvedBy = some id := by
      split at hby <;> exact hby
    obtain ⟨hstate, hspent, hhistory, j, f, hj, hf, hid, hresolved, hnone, hkept⟩ :=
      h.indirect i d id hd hby'
    have hstays : ∀ g : LedgerEntry, g.record.state = .resolved →
        (if g.record.state.isTerminal then g
          else { g with record := { g.record with state := .blocked } }) = g := by
      intro g hg
      rw [hg]
      rfl
    rw [hstays d hstate]
    refine ⟨hstate, hspent, hhistory, j, f, hj, ?_, hid, hresolved, hnone, hkept⟩
    rw [Ledger.blockRemaining, List.getElem?_map, hf, Option.map_some, hstays f hresolved]

theorem balanced_blockRemaining (h : ∀ e ∈ l, e.record.Balanced b) :
    ∀ e ∈ l.blockRemaining, e.record.Balanced b := by
  intro e he
  obtain ⟨d, hd, rfl⟩ := List.mem_map.1 he
  have hbalanced := h d hd
  split
  · exact hbalanced
  · exact ⟨hbalanced.spent_eq, hbalanced.clamped⟩

end Ledger

end HarnessRepair

import HarnessRepair.Session.Ledger
import Mathlib.Data.List.Basic
import Mathlib.Data.List.Nodup

/-!
# The order of the ledger

Findings are worked on in the order in which they were queued, one at a time.  So
a ledger falls in two: the findings that are done with, and behind them those that
have not been worked on, because they still wait or went away with another.  In
between stands the finding at work, if there is one.

## Main definitions

* `LedgerEntry.isDirect` — resolved by a patch of its own.
* `Ledger.directStatements` — the statements kept for such findings.
* `Ledger.Filed`, `Ledger.Queued`, `Ledger.Working` — the ledger between two
  findings, and while one is worked on.
* `Ledger.holdings` — the records of a ledger and its findings, in containers of their own.

## Main results

* `Ledger.holdings_map`, `Ledger.holdings_observe`, `Ledger.holdings_track` — **what is done to a
  ledger is done to its two containers.**
* `Ledger.entries_holdings` — no record is without its finding.
* `Ledger.Queued.mapIf`, `Ledger.Working.update` — what leaves a ledger between two
  findings, or at work on one.
* `Ledger.Queued.begin`, `Ledger.Working.finish` — **how a ledger gets from one to the
  other**, and that the statements kept last stand last.
-/

namespace HarnessRepair

/-! ### Entries -/

namespace LedgerEntry

/-- Whether a finding was resolved by a patch of its own. -/
def isDirect (e : LedgerEntry) : Bool :=
  e.record.state == .resolved && e.record.resolvedBy.isNone

/-- A finding that has not been worked on: it waits, or it went away with another. -/
def Untouched (e : LedgerEntry) : Prop :=
  e.record.state = .pending ∧ e.record.resolvedBy = none ∨
    e.record.state = .resolved ∧ e.record.resolvedBy ≠ none

/-- A finding that is done with. -/
def Done (e : LedgerEntry) : Prop := e.record.state.isTerminal = true

theorem isDirect_eq_true_iff {e : LedgerEntry} :
    e.isDirect = true ↔ e.record.state = .resolved ∧ e.record.resolvedBy = none := by
  rw [isDirect, Bool.and_eq_true, beq_iff_eq, Option.isNone_iff_eq_none]

theorem isDirect_eq_false {e : LedgerEntry} (h : e.record.state ≠ .resolved) :
    e.isDirect = false := by
  rw [Bool.eq_false_iff]
  exact fun hd => h (isDirect_eq_true_iff.1 hd).1

theorem Untouched.isDirect {e : LedgerEntry} (h : e.Untouched) : e.isDirect = false := by
  rw [Bool.eq_false_iff]
  intro hd
  obtain ⟨hstate, hby⟩ := isDirect_eq_true_iff.1 hd
  rcases h with ⟨hpending, -⟩ | ⟨-, hne⟩
  · rw [hstate] at hpending
    cases hpending
  · exact hne hby

/-- A change of the entry of a finding that its place in the ledger does not depend on. -/
structure Mild (id : FindingId) (g : LedgerEntry → LedgerEntry) : Prop where
  id_eq : ∀ e, (g e).record.findingId = e.record.findingId
  state_eq : ∀ e, (g e).record.state = e.record.state
  resolvedBy_eq : ∀ e, (g e).record.resolvedBy = e.record.resolvedBy
  kept_eq : ∀ e, (g e).record.keptStatements = e.record.keptStatements
  named : ∀ e, e.finding.id = id → (g e).finding.id = id

theorem Mild.isDirect_eq {id : FindingId} {g : LedgerEntry → LedgerEntry} (hg : Mild id g)
    (e : LedgerEntry) : (g e).isDirect = e.isDirect := by
  rw [isDirect, isDirect, hg.state_eq, hg.resolvedBy_eq]

end LedgerEntry

namespace Ledger

open LedgerEntry

/-! ### Filing -/

/-- The findings of a ledger, in order. -/
def ids (l : Ledger) : List FindingId := l.map (·.record.findingId)

theorem ids_append (l m : Ledger) : ids (l ++ m) = ids l ++ ids m := List.map_append

theorem mem_ids {l : Ledger} {e : LedgerEntry} (h : e ∈ l) : e.record.findingId ∈ ids l :=
  List.mem_map.2 ⟨e, h, rfl⟩

/-- Every finding has one entry, and the entry is about it. -/
structure Filed (l : Ledger) : Prop where
  nodup : (ids l).Nodup
  named : ∀ e ∈ l, e.finding.id = e.record.findingId

theorem filed_nil : Filed [] where
  nodup := List.nodup_nil
  named := fun e he => by cases he

/-- Some entries may change in all but the finding they are about. -/
theorem Filed.mapIf {l : Ledger} (h : Filed l) {p : LedgerEntry → Prop} [DecidablePred p]
    {g : LedgerEntry → LedgerEntry}
    (hid : ∀ e, p e → (g e).record.findingId = e.record.findingId)
    (hnamed : ∀ e, p e → e.finding.id = e.record.findingId →
      (g e).finding.id = e.record.findingId) :
    Filed (l.map fun e => if p e then g e else e) where
  nodup := by
    have hids : ids (l.map fun e => if p e then g e else e) = ids l := by
      rw [ids, List.map_map]
      refine List.map_congr_left fun e _ => ?_
      by_cases hp : p e
      · rw [Function.comp_apply, if_pos hp, hid e hp]
      · rw [Function.comp_apply, if_neg hp]
    rw [hids]
    exact h.nodup
  named := by
    intro e he
    obtain ⟨d, hd, rfl⟩ := List.mem_map.1 he
    by_cases hp : p d
    · rw [if_pos hp, hid d hp]
      exact hnamed d hp (h.named d hd)
    · rw [if_neg hp]
      exact h.named d hd

theorem Filed.update {l : Ledger} (h : Filed l) {id : FindingId} {g : LedgerEntry → LedgerEntry}
    (hid : ∀ e, (g e).record.findingId = e.record.findingId)
    (hnamed : ∀ e, e.finding.id = id → (g e).finding.id = id) : Filed (l.update id g) := by
  refine h.mapIf (fun e _ => hid e) fun e heq he => ?_
  rw [heq]
  exact hnamed e (he.trans heq)

/-- A finding that has no entry gets one. -/
theorem Filed.push {l : Ledger} (h : Filed l) {f : Finding} (hnew : l.find? f.id = none) :
    Filed (l ++ [⟨{ findingId := f.id }, f⟩]) where
  nodup := by
    rw [ids_append, List.nodup_append]
    refine ⟨h.nodup, List.pairwise_singleton _ _, ?_⟩
    rintro id hmem _ hlast rfl
    obtain ⟨e, he, heq⟩ := List.mem_map.1 hmem
    have hid : e.record.findingId = f.id := heq.trans (List.mem_singleton.1 hlast)
    have hnone := List.find?_eq_none.1 hnew e he
    exact hnone (beq_iff_eq.2 hid)
  named := by
    intro e he
    rcases List.mem_append.1 he with he | he
    · exact h.named e he
    · rw [List.mem_singleton.1 he]

/-- The other entries are about other findings. -/
theorem Filed.notMem {before after : Ledger} {e : LedgerEntry}
    (h : Filed (before ++ e :: after)) :
    e.record.findingId ∉ ids before ∧ e.record.findingId ∉ ids after := by
  have hnodup := h.nodup
  rw [ids_append, List.nodup_append] at hnodup
  obtain ⟨-, hafter, hdisjoint⟩ := hnodup
  refine ⟨fun hmem => ?_, (List.nodup_cons.1 hafter).1⟩
  exact hdisjoint _ hmem _ List.mem_cons_self rfl

theorem update_of_notMem {l : Ledger} {id : FindingId} (h : id ∉ ids l)
    (g : LedgerEntry → LedgerEntry) : l.update id g = l := by
  have hself : ∀ e ∈ l, (if e.record.findingId = id then g e else e) = e := by
    intro e he
    have hne : e.record.findingId ≠ id := fun heq => h (heq ▸ mem_ids he)
    rw [if_neg hne]
  rw [update, List.map_congr_left hself, List.map_id']

/-- Changing the entry of a finding changes it where it stands. -/
theorem Filed.update_eq {before after : Ledger} {e : LedgerEntry}
    (h : Filed (before ++ e :: after)) (g : LedgerEntry → LedgerEntry) :
    Ledger.update (before ++ e :: after) e.record.findingId g = before ++ g e :: after := by
  obtain ⟨hbefore, hafter⟩ := h.notMem
  have hsplit : Ledger.update (before ++ e :: after) e.record.findingId g =
      before.update e.record.findingId g ++
        (if e.record.findingId = e.record.findingId then g e else e) ::
          after.update e.record.findingId g := List.map_append
  rw [hsplit, update_of_notMem hbefore, update_of_notMem hafter, if_pos rfl]

/-! ### Records and findings apart -/

/-- Entries with the same finding are the same entry. -/
theorem Filed.eq_of_id {l : Ledger} (h : Filed l) {d e : LedgerEntry} (hd : d ∈ l) (he : e ∈ l)
    (hid : d.record.findingId = e.record.findingId) : d = e :=
  List.inj_on_of_nodup_map h.nodup hd he hid

/-- The entry of a finding is the one that is found. -/
theorem Filed.find?_eq_some_iff {l : Ledger} (h : Filed l) {id : FindingId} {e : LedgerEntry} :
    l.find? id = some e ↔ e ∈ l ∧ e.record.findingId = id := by
  constructor
  · intro hf
    have hfound := List.find?_some hf
    exact ⟨List.mem_of_find?_eq_some hf, beq_iff_eq.1 hfound⟩
  · rintro ⟨he, hid⟩
    cases hf : l.find? id with
    | none => exact absurd (beq_iff_eq.2 hid) (List.find?_eq_none.1 hf e he)
    | some d =>
      have hfound := List.find?_some hf
      have hd : d.record.findingId = id := beq_iff_eq.1 hfound
      rw [h.eq_of_id (List.mem_of_find?_eq_some hf) he (hd.trans hid.symm)]

/-- A change of entries that leaves their findings alone changes the entry that is found. -/
theorem find?_map {g : LedgerEntry → LedgerEntry}
    (hg : ∀ e, (g e).record.findingId = e.record.findingId) (l : Ledger) (id : FindingId) :
    find? (l.map g) id = (l.find? id).map g := by
  have hsame : (fun e : LedgerEntry => e.record.findingId == id) ∘ g =
      fun e => e.record.findingId == id := by
    funext e
    rw [Function.comp_apply, hg]
  rw [find?, List.find?_map, hsame, find?]

/-- The two containers of a session: the records in queue order, and how every finding was
observed last. -/
structure Holdings where
  records : List AttemptRecord
  finding? : FindingId → Option Finding

namespace Holdings

/-- Changes the record of a finding. -/
def updateRecord (h : Holdings) (id : FindingId) (g : AttemptRecord → AttemptRecord) : Holdings :=
  { h with records := h.records.map fun r => if r.findingId = id then g r else r }

/-- Takes note of how a finding looks now. -/
def observe (h : Holdings) (f : Finding) : Holdings :=
  { h with finding? := Function.update h.finding? f.id (some f) }

/-- Makes a record of a finding that has none, and takes note of how it looks now. -/
def track (h : Holdings) (f : Finding) : Holdings :=
  { h.observe f with
    records := if h.records.any (·.findingId == f.id) then h.records
      else h.records ++ [{ findingId := f.id }] }

/-- Resolves the waiting records whose findings are not present. -/
def settle (h : Holdings) (resolver : FindingId) (present : List FindingId) : Holdings :=
  { h with
    records := h.records.map fun r =>
      if r.state == .pending && !present.contains r.findingId then
        { r with state := .resolved, resolvedBy := some resolver }
      else r }

/-- Ends every record that is not settled. -/
def blockRemaining (h : Holdings) : Holdings :=
  { h with
    records := h.records.map fun r =>
      if r.state.isTerminal then r else { r with state := .blocked } }

/-- The records that there is a finding for, each with its finding. -/
def entries (h : Holdings) : Ledger :=
  h.records.filterMap fun r => (h.finding? r.findingId).map fun f => ⟨r, f⟩

end Holdings

/-- The two containers that a ledger stands for. -/
def holdings (l : Ledger) : Holdings where
  records := l.records
  finding? id := (l.find? id).map (·.finding)

/-- **What is read off the two containers is the ledger**: no record is without its finding. -/
theorem entries_holdings {l : Ledger} (h : Filed l) : (holdings l).entries = l := by
  have hfound : ∀ e ∈ l, ((holdings l).finding? e.record.findingId).map (⟨e.record, ·⟩) =
      some e := by
    intro e he
    have hfind : l.find? e.record.findingId = some e := h.find?_eq_some_iff.2 ⟨he, rfl⟩
    change ((l.find? e.record.findingId).map _).map _ = _
    rw [hfind]
    rfl
  rw [Holdings.entries, holdings, records, List.filterMap_map]
  exact (List.filterMap_congr hfound).trans (List.filterMap_some)

/-- Records are looked up as entries are. -/
theorem find?_records (l : Ledger) (id : FindingId) :
    (holdings l).records.find? (fun r => r.findingId == id) = (l.find? id).map (·.record) :=
  List.find?_map ..

/-- So is the first finding that waits. -/
theorem nextPending?_eq (l : Ledger) : l.nextPending? =
    ((holdings l).records.find? fun r => r.state == .pending).map (·.findingId) := by
  rw [holdings, records, List.find?_map, Option.map_map]
  rfl

/-- **What is done to the records alone.** -/
theorem holdings_map {g : LedgerEntry → LedgerEntry} {m : AttemptRecord → AttemptRecord}
    (hrecord : ∀ e, (g e).record = m e.record) (hid : ∀ r, (m r).findingId = r.findingId)
    (hfinding : ∀ e, (g e).finding = e.finding) (l : Ledger) :
    holdings (l.map g) = { holdings l with records := (holdings l).records.map m } := by
  have hrecords : records (l.map g) = l.records.map m := by
    rw [records, records, List.map_map, List.map_map]
    exact List.map_congr_left fun e _ => hrecord e
  have hfindings : ∀ id, (find? (l.map g) id).map (·.finding) = (l.find? id).map (·.finding) := by
    intro id
    rw [find?_map (fun e => by rw [hrecord, hid]), Option.map_map]
    exact congrFun (congrArg Option.map (funext hfinding)) _
  rw [holdings, holdings, hrecords]
  exact congrArg _ (funext hfindings)

theorem holdings_updateRecord (id : FindingId) {m : AttemptRecord → AttemptRecord}
    (hm : ∀ r, (m r).findingId = r.findingId) (l : Ledger) :
    holdings (l.updateRecord id m) = (holdings l).updateRecord id m :=
  holdings_map (fun e => by split <;> rfl) (fun r => by split; exacts [hm r, rfl])
    (fun e => by split <;> rfl) l

theorem holdings_settle (l : Ledger) (resolver : FindingId) (present : List FindingId) :
    holdings (l.settle resolver present) = (holdings l).settle resolver present :=
  holdings_map (fun e => by rw [isGone]; split <;> rfl) (fun r => by split <;> rfl)
    (fun e => by split <;> rfl) l

theorem holdings_blockRemaining (l : Ledger) :
    holdings l.blockRemaining = (holdings l).blockRemaining :=
  holdings_map (fun e => by split <;> rfl) (fun r => by split <;> rfl)
    (fun e => by split <;> rfl) l

/-- A finding that has an entry is observed in its container alone. -/
theorem holdings_observe {l : Ledger} {f : Finding} {e : LedgerEntry}
    (hfind : l.find? f.id = some e) : holdings (l.observe f) = (holdings l).observe f := by
  have hrecords : records (l.observe f) = l.records := by
    rw [records, observe, update, List.map_map]
    exact List.map_congr_left fun d _ => by rw [Function.comp_apply]; split <;> rfl
  have hfindings : (fun id => ((l.observe f).find? id).map (·.finding)) =
      Function.update (fun id => (l.find? id).map (·.finding)) f.id (some f) := by
    funext id
    rw [observe, update, find?_map fun d => by split <;> rfl]
    by_cases hid : id = f.id
    · have hfound := List.find?_some hfind
      rw [hid, Function.update_self, hfind, Option.map_some, if_pos (beq_iff_eq.1 hfound)]
      rfl
    · rw [Function.update_of_ne hid]
      cases hd : l.find? id with
      | none => rfl
      | some d =>
        have hfound := List.find?_some hd
        have hne : d.record.findingId ≠ f.id := fun heq =>
          hid ((beq_iff_eq.1 hfound).symm.trans heq)
        rw [Option.map_some, if_neg hne]
  rw [holdings, holdings, hrecords, hfindings]
  rfl

/-- **Queueing a finding fills both containers.** -/
theorem holdings_track (l : Ledger) (f : Finding) :
    holdings (l.track f) = (holdings l).track f := by
  have hany : (holdings l).records.any (·.findingId == f.id) = (l.find? f.id).isSome := by
    rw [Bool.eq_iff_iff, List.any_eq_true, ← List.find?_isSome, find?_records, Option.isSome_map]
  rw [track, Holdings.track, hany]
  cases hfind : l.find? f.id with
  | some e =>
    rw [Option.isSome_some, if_pos rfl]
    exact holdings_observe hfind
  | none =>
    have hrecords : records (l ++ [⟨{ findingId := f.id }, f⟩]) =
        l.records ++ [{ findingId := f.id }] := List.map_append
    have hfindings : (fun id => (find? (l ++ [⟨{ findingId := f.id }, f⟩]) id).map (·.finding)) =
        Function.update (fun id => (l.find? id).map (·.finding)) f.id (some f) := by
      funext id
      rw [find?, List.find?_append]
      by_cases hid : id = f.id
      · have hnone : List.find? (fun e : LedgerEntry => e.record.findingId == f.id) l = none :=
          hfind
        rw [hid, Function.update_self, hnone, Option.none_or, List.find?_singleton,
          if_pos (beq_self_eq_true f.id)]
        rfl
      · have hne : (f.id == id) = false := beq_eq_false_iff_ne.2 (Ne.symm hid)
        rw [Function.update_of_ne hid, List.find?_singleton, hne, if_neg Bool.false_ne_true,
          Option.or_none]
        rfl
    rw [holdings, holdings, hrecords, hfindings]
    rfl

/-! ### Statements of the findings resolved directly -/

/-- The statements kept for findings that were resolved by patches of their own. -/
def directStatements (l : Ledger) : List String :=
  (l.filter (·.isDirect)).flatMap (·.record.keptStatements)

theorem directStatements_append (l m : Ledger) :
    directStatements (l ++ m) = directStatements l ++ directStatements m := by
  rw [directStatements, List.filter_append, List.flatMap_append]
  rfl

theorem directStatements_eq_nil {l : Ledger} (h : ∀ e ∈ l, e.isDirect = false) :
    directStatements l = [] := by
  have hnone : l.filter (·.isDirect) = [] := by
    rw [List.filter_eq_nil_iff]
    intro e he hd
    rw [h e he] at hd
    cases hd
  rw [directStatements, hnone, List.flatMap_nil]

theorem directStatements_direct {e : LedgerEntry} (h : e.isDirect = true) :
    directStatements [e] = e.record.keptStatements := by
  rw [directStatements, List.filter_singleton, h, cond_true, List.flatMap_singleton]

/-- Of an entry, only whether it was resolved directly counts, and what was kept for it. -/
theorem directStatements_singleton {d e : LedgerEntry} (hdirect : d.isDirect = e.isDirect)
    (hkept : d.record.keptStatements = e.record.keptStatements) :
    directStatements [d] = directStatements [e] := by
  rw [directStatements, directStatements, List.filter_singleton, List.filter_singleton, hdirect]
  cases e.isDirect with
  | true => rw [cond_true, cond_true, List.flatMap_singleton, List.flatMap_singleton, hkept]
  | false => rfl

theorem directStatements_map {l : Ledger} {g : LedgerEntry → LedgerEntry}
    (hdirect : ∀ e ∈ l, (g e).isDirect = e.isDirect)
    (hkept : ∀ e, (g e).record.keptStatements = e.record.keptStatements) :
    directStatements (l.map g) = directStatements l := by
  induction l with
  | nil => rfl
  | cons e l ih =>
    rw [List.forall_mem_cons] at hdirect
    have hsplit : ∀ (d : LedgerEntry) (m : Ledger), directStatements (d :: m) =
        directStatements [d] ++ directStatements m := fun d m => directStatements_append [d] m
    rw [List.map_cons, hsplit, directStatements_singleton hdirect.1 (hkept e), ih hdirect.2,
      ← hsplit]

theorem directStatements_mapIf {l : Ledger} {p : LedgerEntry → Prop} [DecidablePred p]
    {g : LedgerEntry → LedgerEntry} (hdirect : ∀ e, p e → (g e).isDirect = e.isDirect)
    (hkept : ∀ e, (g e).record.keptStatements = e.record.keptStatements) :
    directStatements (l.map fun e => if p e then g e else e) = directStatements l := by
  refine directStatements_map (fun e _ => ?_) fun e => ?_
  · by_cases hp : p e
    · rw [if_pos hp, hdirect e hp]
    · rw [if_neg hp]
  · by_cases hp : p e
    · rw [if_pos hp, hkept]
    · rw [if_neg hp]

theorem directStatements_blockRemaining (l : Ledger) :
    l.blockRemaining.directStatements = l.directStatements := by
  refine directStatements_map (fun e _ => ?_) fun e => ?_
  · by_cases h : e.record.state.isTerminal = true
    · rw [if_pos h]
    · rw [if_neg h, isDirect_eq_false FindingState.noConfusion, isDirect_eq_false]
      intro hr
      rw [hr] at h
      exact h rfl
  · by_cases h : e.record.state.isTerminal = true
    · rw [if_pos h]
    · rw [if_neg h]

/-! ### Between two findings -/

/-- No finding is worked on. -/
structure Queued (l : Ledger) : Prop where
  filed : Filed l
  split : ∃ before after, l = before ++ after ∧ (∀ e ∈ before, e.Done) ∧ ∀ e ∈ after, e.Untouched

theorem queued_nil : Queued [] where
  filed := filed_nil
  split := ⟨[], [], rfl, List.forall_mem_nil _, List.forall_mem_nil _⟩

/-- Some entries may change as long as they stay on their side. -/
theorem Queued.mapIf {l : Ledger} (h : Queued l) {p : LedgerEntry → Prop} [DecidablePred p]
    {g : LedgerEntry → LedgerEntry} (hfiled : Filed (l.map fun e => if p e then g e else e))
    (hdone : ∀ e, p e → e.Done → (g e).Done)
    (huntouched : ∀ e, p e → e.Untouched → (g e).Untouched) :
    Queued (l.map fun e => if p e then g e else e) where
  filed := hfiled
  split := by
    obtain ⟨before, after, rfl, hbefore, hafter⟩ := h.split
    refine ⟨before.map _, after.map _, List.map_append, ?_, ?_⟩
    · intro e he
      obtain ⟨d, hd, rfl⟩ := List.mem_map.1 he
      by_cases hp : p d
      · rw [if_pos hp]
        exact hdone d hp (hbefore d hd)
      · rw [if_neg hp]
        exact hbefore d hd
    · intro e he
      obtain ⟨d, hd, rfl⟩ := List.mem_map.1 he
      by_cases hp : p d
      · rw [if_pos hp]
        exact huntouched d hp (hafter d hd)
      · rw [if_neg hp]
        exact hafter d hd

theorem Queued.observe {l : Ledger} (h : Queued l) (f : Finding) :
    Queued (l.observe f) ∧ (l.observe f).directStatements = l.directStatements := by
  have hfiled : Filed (l.observe f) := h.filed.update (fun _ => rfl) fun _ _ => rfl
  exact ⟨h.mapIf hfiled (fun _ _ he => he) fun _ _ he => he,
    directStatements_mapIf (fun _ _ => rfl) fun _ => rfl⟩

/-- A new finding waits at the end. -/
theorem Queued.push {l : Ledger} (h : Queued l) {f : Finding} (hnew : l.find? f.id = none) :
    Queued (l ++ [⟨{ findingId := f.id }, f⟩]) where
  filed := h.filed.push hnew
  split := by
    obtain ⟨before, after, rfl, hbefore, hafter⟩ := h.split
    refine ⟨before, after ++ [⟨{ findingId := f.id }, f⟩], List.append_assoc _ _ _, hbefore, ?_⟩
    intro e he
    rcases List.mem_append.1 he with he | he
    · exact hafter e he
    · rw [List.mem_singleton.1 he]
      exact Or.inl ⟨rfl, rfl⟩

theorem directStatements_push (l : Ledger) (f : Finding) :
    directStatements (l ++ [⟨{ findingId := f.id }, f⟩]) = l.directStatements := by
  rw [directStatements_append, directStatements_eq_nil (List.forall_mem_singleton.2 rfl),
    List.append_nil]

theorem Queued.track {l : Ledger} (h : Queued l) (f : Finding) :
    Queued (l.track f) ∧ (l.track f).directStatements = l.directStatements := by
  rw [Ledger.track]
  cases hf : l.find? f.id with
  | some e => exact h.observe f
  | none => exact ⟨h.push hf, directStatements_push l f⟩

/-- Findings that went away with another one have not been worked on. -/
theorem Queued.settle {l : Ledger} (h : Queued l) (resolver : FindingId)
    (present : List FindingId) :
    Queued (l.settle resolver present) ∧
      (l.settle resolver present).directStatements = l.directStatements := by
  have hfiled : Filed (l.settle resolver present) :=
    h.filed.mapIf (fun _ _ => rfl) fun _ _ he => he
  constructor
  · exact h.mapIf hfiled (fun _ _ _ => rfl) fun _ _ _ => Or.inr ⟨rfl, Option.some_ne_none _⟩
  · refine directStatements_mapIf (fun e hgone => ?_) fun _ => rfl
    rw [isGone, Bool.and_eq_true, beq_iff_eq] at hgone
    have hne : e.record.state ≠ .resolved := by
      rw [hgone.1]
      exact FindingState.noConfusion
    rw [isDirect_eq_false hne]
    exact Untouched.isDirect (Or.inr ⟨rfl, Option.some_ne_none _⟩)

/-- What one finding after the other does to a ledger. -/
theorem Queued.foldl {l : Ledger} {step : Ledger → Finding → Ledger}
    (hstep : ∀ l, Queued l → ∀ f,
      Queued (step l f) ∧ (step l f).directStatements = l.directStatements)
    (h : Queued l) (fs : List Finding) :
    Queued (fs.foldl step l) ∧ (fs.foldl step l).directStatements = l.directStatements := by
  induction fs generalizing l with
  | nil => exact ⟨h, rfl⟩
  | cons f fs ih =>
    obtain ⟨hnext, hsame⟩ := hstep l h f
    obtain ⟨hrest, hrestSame⟩ := ih hnext
    exact ⟨hrest, hrestSame.trans hsame⟩

/-! ### At work on a finding -/

/-- One finding is worked on. -/
structure Working (id : FindingId) (l : Ledger) : Prop where
  filed : Filed l
  split : ∃ before e after, l = before ++ e :: after ∧ e.record.findingId = id ∧
    e.record.state = .inProgress ∧ e.record.resolvedBy = none ∧
    (∀ d ∈ before, d.Done) ∧ ∀ d ∈ after, d.Untouched

/-- Findings that have not been worked on do not count. -/
theorem directStatements_before {before after : Ledger} {e : LedgerEntry}
    (hafter : ∀ d ∈ after, d.Untouched) :
    directStatements (before ++ e :: after) = directStatements before ++ directStatements [e] := by
  have hcons := directStatements_append [e] after
  rw [directStatements_eq_nil fun d hd => (hafter d hd).isDirect, List.append_nil] at hcons
  rw [directStatements_append]
  exact congrArg _ hcons

/-- **The first finding that waits is taken up.** -/
theorem Queued.begin {l : Ledger} (h : Queued l) {id : FindingId}
    (hnext : l.nextPending? = some id) :
    Working id (l.updateRecord id fun r => { r with state := .inProgress }) ∧
      (l.updateRecord id fun r => { r with state := .inProgress }).directStatements =
        l.directStatements := by
  rw [nextPending?, Option.map_eq_some_iff] at hnext
  obtain ⟨e, hfind, rfl⟩ := hnext
  obtain ⟨before, after, rfl, hbefore, hafter⟩ := h.split
  have hfound := List.find?_some hfind
  have hpending : e.record.state = .pending := beq_iff_eq.1 hfound
  -- it stands among those that have not been worked on, behind some that went away
  have hskip : ∀ d ∈ before, ¬ (d.record.state == .pending) = true := by
    intro d hd hp
    have hdone := hbefore d hd
    rw [Done, beq_iff_eq.1 hp] at hdone
    cases hdone
  rw [List.find?_append, List.find?_eq_none.2 hskip, Option.none_or] at hfind
  obtain ⟨-, gone, rest, rfl, hgone⟩ := List.find?_eq_some_iff_append.1 hfind
  have hresolvedBy : e.record.resolvedBy = none := by
    rcases hafter e (by simp) with ⟨-, hby⟩ | ⟨hstate, -⟩
    · exact hby
    · rw [hpending] at hstate
      cases hstate
  have hdone : ∀ d ∈ before ++ gone, d.Done := by
    intro d hd
    rcases List.mem_append.1 hd with hd | hd
    · exact hbefore d hd
    · have hnot := hgone d hd
      rcases hafter d (List.mem_append_left _ hd) with ⟨hstate, -⟩ | ⟨hstate, -⟩
      · rw [hstate] at hnot
        cases hnot
      · rw [Done, hstate]
        rfl
  have hsplit : before ++ (gone ++ e :: rest) = (before ++ gone) ++ e :: rest :=
    (List.append_assoc _ _ _).symm
  have hfiled := h.filed
  rw [hsplit] at hfiled ⊢
  have hupdate := hfiled.update_eq fun d =>
    { d with record := { d.record with state := .inProgress } }
  rw [updateRecord, hupdate]
  constructor
  · refine ⟨?_, _, _, _, rfl, rfl, rfl, hresolvedBy, hdone, ?_⟩
    · rw [← hupdate]
      exact hfiled.update (fun _ => rfl) fun _ hd => hd
    · exact fun d hd => hafter d (List.mem_append_right _ (List.mem_cons_of_mem _ hd))
  · have hrest : ∀ d ∈ rest, d.Untouched :=
      fun d hd => hafter d (List.mem_append_right _ (List.mem_cons_of_mem _ hd))
    rw [directStatements_before hrest, directStatements_before hrest]
    congr 1
    rw [directStatements_eq_nil (List.forall_mem_singleton.2 (isDirect_eq_false
      FindingState.noConfusion)), directStatements_eq_nil]
    rw [List.forall_mem_singleton, isDirect_eq_false]
    rw [hpending]
    exact FindingState.noConfusion

namespace Working

variable {id : FindingId} {l : Ledger}

/-- The entry of the finding at work is found. -/
theorem find?_eq_some (h : Working id l) :
    ∃ e, l.find? id = some e ∧ e.record.findingId = id ∧ e.finding.id = id := by
  obtain ⟨before, e, after, rfl, hid, -⟩ := h.split
  have hmem : e ∈ before ++ e :: after := by simp
  cases hf : Ledger.find? (before ++ e :: after) id with
  | none => exact absurd (beq_iff_eq.2 hid) (List.find?_eq_none.1 hf e hmem)
  | some d =>
    have hfound := List.find?_some hf
    have hd : d.record.findingId = id := beq_iff_eq.1 hfound
    exact ⟨d, rfl, hd, (h.filed.named d (List.mem_of_find?_eq_some hf)).trans hd⟩

/-- **A mild change of its entry leaves the finding at work.** -/
theorem update (h : Working id l) {g : LedgerEntry → LedgerEntry} (hg : Mild id g) :
    Working id (l.update id g) ∧ (l.update id g).directStatements = l.directStatements := by
  constructor
  · have hfiled := h.filed.update hg.id_eq hg.named
    obtain ⟨before, e, after, rfl, rfl, hstate, hby, hbefore, hafter⟩ := h.split
    rw [h.filed.update_eq] at hfiled ⊢
    refine ⟨hfiled, before, g e, after, rfl, hg.id_eq e, ?_, ?_, hbefore, hafter⟩
    · rw [hg.state_eq, hstate]
    · rw [hg.resolvedBy_eq, hby]
  · exact directStatements_mapIf (fun e _ => hg.isDirect_eq e) hg.kept_eq

/-- So does a change of its record that leaves alone what its place depends on. -/
theorem updateRecord (h : Working id l) (f : AttemptRecord → AttemptRecord)
    (hid : ∀ r, (f r).findingId = r.findingId) (hstate : ∀ r, (f r).state = r.state)
    (hby : ∀ r, (f r).resolvedBy = r.resolvedBy)
    (hkept : ∀ r, (f r).keptStatements = r.keptStatements) :
    Working id (l.updateRecord id f) ∧
      (l.updateRecord id f).directStatements = l.directStatements :=
  h.update
    { id_eq := fun e => hid e.record
      state_eq := fun e => hstate e.record
      resolvedBy_eq := fun e => hby e.record
      kept_eq := fun e => hkept e.record
      named := fun _ he => he }

/-- **A finding at work is done with at last**, and only what is then kept for it comes
to what was kept before. -/
theorem finish (h : Working id l) (f : AttemptRecord → AttemptRecord)
    (hid : ∀ r, (f r).findingId = r.findingId) (hdone : ∀ r, (f r).state.isTerminal = true) :
    Queued (l.updateRecord id f) ∧ ∃ e : LedgerEntry, e.record.findingId = id ∧
      e.record.resolvedBy = none ∧
      (l.updateRecord id f).directStatements =
        l.directStatements ++ directStatements [{ e with record := f e.record }] := by
  have hfiled : Filed (Ledger.updateRecord l id f) :=
    h.filed.update (fun e => hid e.record) fun _ he => he
  obtain ⟨before, e, after, rfl, rfl, hstate, hby, hbefore, hafter⟩ := h.split
  have hupdate := h.filed.update_eq fun d => { d with record := f d.record }
  rw [Ledger.updateRecord, hupdate] at hfiled ⊢
  constructor
  · refine ⟨hfiled, before ++ [{ e with record := f e.record }], after, ?_, ?_, hafter⟩
    · rw [List.append_assoc]
      rfl
    · rw [List.forall_mem_append, List.forall_mem_singleton]
      exact ⟨hbefore, hdone e.record⟩
  · refine ⟨e, rfl, hby, ?_⟩
    have hopen : directStatements [e] = [] := by
      refine directStatements_eq_nil (List.forall_mem_singleton.2 (isDirect_eq_false ?_))
      rw [hstate]
      exact FindingState.noConfusion
    rw [directStatements_before hafter, directStatements_before hafter, hopen, List.append_nil]

end Working

end Ledger

end HarnessRepair

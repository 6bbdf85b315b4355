import HarnessRepair.Proofs.Batch.Guarantee
import Mathlib.Data.List.Forall2
import Mathlib.Data.List.Sort
import Mathlib.Logic.Hydra
import Mathlib.Tactic.Abel

/-!
# Programs side by side

A pool runs some programs, a bounded number of them at a time.  One turn takes up the next
program that waits, or makes one step of a program that runs, or puts a program that has come
to its end aside, with its result; which of these it is, nobody decides.  Results come in the
order in which programs end, and are put into the order of the programs at last.

## Main definitions

* `Pool`, `Pool.start` — what waits, what runs and what has ended, under its number.
* `Pool.Turn`, `Pool.Reaches` — one turn, and any number of turns through worlds of a kind.
* `Pool.results` — the results in the order of the programs.

## Main results

* `Pool.Reaches.results`, `Pool.Reaches.results_map` — **every program ends as it has
  promised**, if each guarantees what the others rely on.
* `Pool.exists_turn`, `Pool.wellFounded_turn` — no pool gets stuck or goes on forever.
* `Pool.reaches_inTurn` — one program after the other is one way to go.
-/

namespace HarnessRepair

open Steps

variable {ε α : Type}

/-- Programs that wait or run, and results, each with its number. -/
structure Pool (ε : Type) (α : Type) where
  waiting : List (Steps ε α × Nat)
  running : List (Steps ε α × Nat)
  /-- In the order in which the programs have ended. -/
  finished : List (α × Nat)

namespace Pool

/-- The pool in which all programs wait. -/
def start (programs : List (Steps ε α)) : Pool ε α := ⟨programs.zipIdx, [], []⟩

/-- The pool in which no program waits or runs. -/
def Ended (x : Pool ε α) : Prop := x.waiting = [] ∧ x.running = []

/-- The results in the order of the programs. -/
def results (x : Pool ε α) : List α :=
  (x.finished.mergeSort fun e e' => e.2 ≤ e'.2).map (·.1)

/-- One turn of a pool in which at most `limit` programs run at a time. -/
inductive Turn (limit : Nat) : Pool ε α × World ε → Pool ε α × World ε → Prop
  | take {e : Steps ε α × Nat} {waiting running : List (Steps ε α × Nat)}
      {finished : List (α × Nat)} {w : World ε} (free : running.length < limit) :
      Turn limit (⟨e :: waiting, running, finished⟩, w) (⟨waiting, running ++ [e], finished⟩, w)
  | advance {β : Type} {m : Run ε β} {next : β → Steps ε α} {i : Nat}
      {waiting before after : List (Steps ε α × Nat)} {finished : List (α × Nat)} {w : World ε} :
      Turn limit (⟨waiting, before ++ (.act m next, i) :: after, finished⟩, w)
        (⟨waiting, before ++ (next (m.run w).1, i) :: after, finished⟩, (m.run w).2)
  | finish {a : α} {i : Nat} {waiting before after : List (Steps ε α × Nat)}
      {finished : List (α × Nat)} {w : World ε} :
      Turn limit (⟨waiting, before ++ (.done a, i) :: after, finished⟩, w)
        (⟨waiting, before ++ after, finished ++ [(a, i)]⟩, w)

/-- Any world. -/
def Anywhere (_ : World ε) : Prop := True

/-- Any number of turns, each of which leads to a world as `R` says. -/
abbrev Reaches (limit : Nat) (R : World ε → Prop) :
    Pool ε α × World ε → Pool ε α × World ε → Prop :=
  Relation.ReflTransGen fun x y => Turn limit x y ∧ R y.2

/-! ### Numbers -/

/-- The numbers of all programs. -/
def numbers (x : Pool ε α) : List Nat :=
  x.waiting.map (·.2) ++ x.running.map (·.2) ++ x.finished.map (·.2)

variable {limit : Nat} {x y : Pool ε α} {w v : World ε}

theorem numbers_start (programs : List (Steps ε α)) :
    (start programs).numbers = List.range programs.length := by
  rw [numbers, start, List.map_nil, List.map_nil, List.append_nil, List.append_nil,
    List.zipIdx_map_snd]
  exact List.range_eq_range'.symm

/-- No number is lost and none comes in. -/
theorem Turn.numbers_perm (h : Turn limit (x, w) (y, v)) : y.numbers.Perm x.numbers := by
  rw [List.perm_iff_count]
  intro k
  cases h <;>
    simp only [numbers, List.map_append, List.map_cons, List.map_nil, List.count_append,
      List.count_cons, List.count_nil] <;> omega

/-- Where the numbers are those of the programs, results are in the order of the programs. -/
theorem getElem?_results {n : Nat} (h : (x.finished.map (·.2)).Perm (List.range n)) :
    x.results.length = n ∧ ∀ (i : Nat) (a : α), x.results[i]? = some a → (a, i) ∈ x.finished := by
  let sorted := x.finished.mergeSort fun e e' => e.2 ≤ e'.2
  have hperm : sorted.Perm x.finished := List.mergeSort_perm _ _
  have hnumbers : sorted.map (·.2) = List.range n := by
    have hsorted : (sorted.map (·.2)).Pairwise (· ≤ ·) := by
      refine List.pairwise_map.2 ((List.pairwise_mergeSort ?_ ?_ x.finished).imp ?_)
      · intro a b c hab hbc
        simp only [decide_eq_true_eq] at *
        omega
      · intro a b
        simp only [Bool.or_eq_true, decide_eq_true_eq]
        omega
      · intro a b hab
        simpa using hab
    exact ((hperm.map _).trans h).eq_of_pairwise' hsorted List.pairwise_le_range
  have hlength : sorted.length = n := by
    have hmap : (sorted.map (·.2)).length = sorted.length := List.length_map _
    rw [← hmap, hnumbers, List.length_range]
  refine ⟨(List.length_map _).trans hlength, fun i a ha => ?_⟩
  obtain ⟨⟨a', k⟩, he, rfl⟩ := Option.map_eq_some_iff.1 (List.getElem?_map.symm.trans ha)
  have hk : (sorted.map (·.2))[i]? = some k := by rw [List.getElem?_map, he]; rfl
  rw [hnumbers] at hk
  obtain ⟨hi, hk⟩ := List.getElem?_eq_some_iff.1 hk
  rw [List.getElem_range] at hk
  subst hk
  exact hperm.mem_iff.1 (List.mem_of_getElem? he)

/-! ### What the programs promise -/

section

variable {n : Nat} {R : World ε → Prop} {rely guar : Nat → World ε → World ε → Prop}
  {post : Nat → α → World ε → Prop}

/-- Of `n` programs in worlds as `R` says, each guarantees what all others rely on. -/
structure Compatible (n : Nat) (R : World ε → Prop) (rely guar : Nat → World ε → World ε → Prop) :
    Prop where
  refl : ∀ i w, R w → rely i w w
  trans : ∀ i u v w, rely i u v → rely i v w → rely i u w
  rely_of_guar : ∀ i k, i < n → k < n → k ≠ i → ∀ w w', R w' → guar i w w' → rely k w w'

/-- A pool whose programs still promise what they are to promise, and whose results are as
they have been promised. -/
structure Keeping (n : Nat) (rely guar : Nat → World ε → World ε → Prop)
    (post : Nat → α → World ε → Prop) (x : Pool ε α) (w : World ε) : Prop where
  numbers : x.numbers.Perm (List.range n)
  programs : ∀ e ∈ x.waiting ++ x.running, e.1.Ensures (rely e.2) (guar e.2) (post e.2) w
  results : ∀ e ∈ x.finished, (Steps.done e.1).Ensures (rely e.2) (guar e.2) (post e.2) w

/-- One turn breaks no promise. -/
theorem Turn.keeping (hc : Compatible n R rely guar) (hw : R w) (hv : R v)
    (h : Turn limit (x, w) (y, v)) (hx : Keeping n rely guar post x w) :
    Keeping n rely guar post y v := by
  have hnumbers := h.numbers_perm.trans hx.numbers
  have hnodup : x.numbers.Nodup := hx.numbers.nodup_iff.2 List.nodup_range
  have hlt : ∀ i ∈ x.numbers, i < n := fun i hi => List.mem_range.1 (hx.numbers.mem_iff.1 hi)
  cases h with
  | take free =>
    refine ⟨hnumbers, fun e he => hx.programs e ?_, hx.results⟩
    simp only [List.mem_append, List.mem_cons, List.not_mem_nil, or_false] at he ⊢
    tauto
  | @advance β m next i waiting before after finished w =>
    obtain ⟨hguar, hnext⟩ := hx.programs (.act m next, i) (by simp) w (hc.refl i w hw)
    -- the others rely on what this step has guaranteed
    have hothers : ∀ k, k ∈ waiting.map (·.2) ∨ k ∈ before.map (·.2) ∨ k ∈ after.map (·.2) ∨
        k ∈ finished.map (·.2) → rely k w (m.run w).2 := by
      intro k hk
      have hne : k ≠ i := by
        rintro rfl
        simp only [numbers, List.map_append, List.map_cons, List.nodup_append, List.nodup_cons,
          List.mem_append, List.mem_cons] at hnodup
        grind
      refine hc.rely_of_guar i k (hlt i ?_) (hlt k ?_) hne w _ hv hguar
      · simp [numbers]
      · simp only [numbers, List.map_append, List.map_cons, List.mem_append, List.mem_cons]
        tauto
    refine ⟨hnumbers, fun e he => ?_, fun e he => ?_⟩
    · simp only [List.mem_append, List.mem_cons] at he
      have hold : e ∈ waiting ∨ e ∈ before ∨ e ∈ after →
          e.1.Ensures (rely e.2) (guar e.2) (post e.2) (m.run w).2 := by
        intro hmem
        refine (hx.programs e ?_).weaken (hc.trans e.2) (hothers e.2 ?_)
        · simp only [List.mem_append, List.mem_cons]
          tauto
        · rcases hmem with h | h | h
          · exact Or.inl (List.mem_map_of_mem h)
          · exact Or.inr (Or.inl (List.mem_map_of_mem h))
          · exact Or.inr (Or.inr (Or.inl (List.mem_map_of_mem h)))
      rcases he with h | h | rfl | h
      · exact hold (Or.inl h)
      · exact hold (Or.inr (Or.inl h))
      · exact hnext
      · exact hold (Or.inr (Or.inr h))
    · exact (hx.results e he).weaken (hc.trans e.2)
        (hothers e.2 (Or.inr (Or.inr (Or.inr (List.mem_map_of_mem he)))))
  | @finish a i waiting before after finished w =>
    refine ⟨hnumbers, fun e he => hx.programs e ?_, fun e he => ?_⟩
    · simp only [List.mem_append, List.mem_cons] at he ⊢
      tauto
    · rcases List.mem_append.1 he with h | h
      · exact hx.results e h
      · obtain rfl := List.mem_singleton.1 h
        exact hx.programs (.done a, i) (by simp)

/-- No turns break a promise. -/
theorem Reaches.keeping (hc : Compatible n R rely guar) (hw : R w)
    (h : Reaches limit R (x, w) (y, v)) (hx : Keeping n rely guar post x w) :
    R v ∧ Keeping n rely guar post y v := by
  generalize hstart : (x, w) = from' at h
  generalize hend : (y, v) = to' at h
  induction h generalizing y v with
  | refl =>
    obtain ⟨rfl, rfl⟩ := Prod.mk.inj (hstart.trans hend.symm)
    exact ⟨hw, hx⟩
  | @tail b c hreach hturn ih =>
    subst hend
    obtain ⟨hb, hkeeping⟩ := ih rfl
    exact ⟨hturn.2, hturn.1.keeping hc hb hturn.2 hkeeping⟩

/-- **Every program ends as it has promised**, whoever takes which turn. -/
theorem Reaches.results {programs : List (Steps ε α)}
    (hc : Compatible programs.length R rely guar) (hw : R w)
    (hall : ∀ (i : Nat) (p : Steps ε α), programs[i]? = some p →
      p.Ensures (rely i) (guar i) (post i) w)
    (h : Reaches limit R (start programs, w) (y, v)) (hend : y.Ended) :
    y.results.length = programs.length ∧
      ∀ (i : Nat) (a : α), y.results[i]? = some a → post i a v := by
  have hstart : Keeping programs.length rely guar post (start programs) w := by
    refine ⟨by rw [numbers_start], fun e he => ?_, List.forall_mem_nil _⟩
    have hmem : e ∈ programs.zipIdx := by simpa [start] using he
    exact hall e.2 e.1 (List.mem_zipIdx_iff_getElem?.1 hmem)
  obtain ⟨hv, hkeeping⟩ := h.keeping hc hw hstart
  have hnumbers : (y.finished.map (·.2)).Perm (List.range programs.length) := by
    have hperm := hkeeping.numbers
    rw [numbers, hend.1, hend.2] at hperm
    exact hperm
  obtain ⟨hlength, hget⟩ := getElem?_results hnumbers
  exact ⟨hlength, fun i a ha => hkeeping.results (a, i) (hget i a ha) v (hc.refl i v hv)⟩

/-- So it is where the programs are made from a list of jobs of any kind. -/
theorem Reaches.results_map {γ : Type} {f : γ → Steps ε α} {xs : List γ}
    {post : γ → α → World ε → Prop} (hc : Compatible xs.length R rely guar) (hw : R w)
    (hall : ∀ (i : Nat) (x : γ), xs[i]? = some x →
      (f x).Ensures (rely i) (guar i) (post x) w)
    (h : Reaches limit R (start (xs.map f), w) (y, v)) (hend : y.Ended) :
    List.Forall₂ (fun x a => post x a v) xs y.results := by
  have hall' : ∀ (i : Nat) (p : Steps ε α), (xs.map f)[i]? = some p →
      p.Ensures (rely i) (guar i) (fun a u => ∀ x, xs[i]? = some x → post x a u) w := by
    intro i p hp
    obtain ⟨x, hi, rfl⟩ := Option.map_eq_some_iff.1 (List.getElem?_map.symm.trans hp)
    refine (hall i x hi).imp fun a u ha x' hx' => ?_
    obtain rfl := Option.some.inj (hi.symm.trans hx')
    exact ha
  obtain ⟨hlength, hpost⟩ := h.results (List.length_map f ▸ hc) hw hall' hend
  rw [List.length_map] at hlength
  exact List.forall₂_iff_get.2 ⟨hlength.symm, fun i hi hr =>
    hpost i _ (List.getElem?_eq_getElem hr) _ (List.getElem?_eq_getElem hi)⟩

end

/-! ### Pools come to their end -/

/-- A pool that has not ended has a turn to take. -/
theorem exists_turn (hlimit : 0 < limit) (x : Pool ε α) (w : World ε) (h : ¬ x.Ended) :
    ∃ y v, Turn limit (x, w) (y, v) := by
  obtain ⟨waiting, running, finished⟩ := x
  cases running with
  | nil =>
    cases waiting with
    | nil => exact absurd ⟨rfl, rfl⟩ h
    | cons e waiting => exact ⟨_, _, .take hlimit⟩
  | cons e running =>
    obtain ⟨p, i⟩ := e
    cases p with
    | done a => exact ⟨_, _, @Turn.finish _ _ _ a i waiting [] running finished w⟩
    | act m next => exact ⟨_, _, @Turn.advance _ _ _ _ m next i waiting [] running finished w⟩

/-- One program is what is left of another after a step. -/
def Rest (q p : Steps ε α) : Prop :=
  ∃ (β : Type) (m : Run ε β) (next : β → Steps ε α) (b : β), p = .act m next ∧ q = next b

theorem wellFounded_rest : WellFounded (Rest (ε := ε) (α := α)) := by
  refine ⟨fun p => ?_⟩
  induction p with
  | done a =>
    refine ⟨_, fun q hq => ?_⟩
    obtain ⟨β, m, next, b, heq, -⟩ := hq
    cases heq
  | act m next ih =>
    refine ⟨_, fun q hq => ?_⟩
    obtain ⟨β, m', next', b, heq, rfl⟩ := hq
    cases heq
    exact ih b

/-- What is left to do of a program: it is taken up, and then it is run. -/
def Sooner : Bool × Steps ε α → Bool × Steps ε α → Prop := Prod.Lex (· < ·) Rest

theorem wellFounded_sooner : WellFounded (Sooner (ε := ε) (α := α)) :=
  WellFounded.prod_lex wellFounded_lt wellFounded_rest

/-- What is left to do in a pool. -/
def agenda (x : Pool ε α) : Multiset (Bool × Steps ε α) :=
  (x.waiting.map fun e => (true, e.1)) + (x.running.map fun e => (false, e.1))

/-- A turn does one thing that is left, and nothing comes up that was not part of it. -/
theorem Turn.agenda (h : Turn limit (x, w) (y, v)) :
    Relation.CutExpand Sooner y.agenda x.agenda := by
  cases h with
  | @take e waiting running finished w free =>
    refine ⟨{(false, e.1)}, (true, e.1), ?_, ?_⟩
    · intro a ha
      rw [Multiset.mem_singleton.1 ha]
      exact Prod.Lex.left _ _ Bool.false_lt_true
    · simp only [Pool.agenda, List.map_append, List.map_cons, List.map_nil, ← Multiset.cons_coe,
        ← Multiset.coe_add, Multiset.coe_nil, ← Multiset.singleton_add]
      abel
  | @advance β m next i waiting before after finished w =>
    refine ⟨{(false, next (m.run w).1)}, (false, .act m next), ?_, ?_⟩
    · intro a ha
      rw [Multiset.mem_singleton.1 ha]
      exact Prod.Lex.right _ ⟨β, m, next, _, rfl, rfl⟩
    · simp only [Pool.agenda, List.map_append, List.map_cons, ← Multiset.cons_coe,
        ← Multiset.coe_add, ← Multiset.singleton_add]
      abel
  | @finish a i waiting before after finished w =>
    refine ⟨0, (false, .done a), fun a ha => absurd ha (Multiset.notMem_zero a), ?_⟩
    simp only [Pool.agenda, List.map_append, List.map_cons, ← Multiset.cons_coe,
      ← Multiset.coe_add, ← Multiset.singleton_add]
    abel

/-- **No pool goes on forever.** -/
theorem wellFounded_turn :
    WellFounded fun (b a : Pool ε α × World ε) => Turn limit a b :=
  Subrelation.wf (fun {_ _} h => Turn.agenda h)
    (InvImage.wf (fun x : Pool ε α × World ε => x.1.agenda) wellFounded_sooner.cutExpand)

/-- From wherever a pool has come, it can come to its end. -/
theorem exists_ended (hlimit : 0 < limit) (x : Pool ε α × World ε) :
    ∃ y, Reaches limit Anywhere x y ∧ y.1.Ended := by
  induction x using (@wellFounded_turn ε α limit).induction with
  | _ x ih =>
    by_cases hend : x.1.Ended
    · exact ⟨x, .refl, hend⟩
    · obtain ⟨y, v, hturn⟩ := exists_turn hlimit x.1 x.2 hend
      obtain ⟨z, hreach, hend'⟩ := ih (y, v) hturn
      exact ⟨z, .head ⟨hturn, trivial⟩ hreach, hend'⟩

/-! ### One program after the other -/

/-- A program that runs among others can make all of its steps, one right after the other. -/
theorem reaches_done (limit : Nat) (waiting before after : List (Steps ε α × Nat))
    (finished : List (α × Nat)) (p : Steps ε α) (i : Nat) (w : World ε) :
    Reaches limit Anywhere (⟨waiting, before ++ (p, i) :: after, finished⟩, w)
      (⟨waiting, before ++ after, finished ++ [((p.alone.run w).1, i)]⟩, (p.alone.run w).2) := by
  induction p generalizing w with
  | done a => exact .single ⟨.finish, trivial⟩
  | act m next ih => exact .head ⟨.advance, trivial⟩ (ih _ _)

/-- It can make some of them. -/
theorem reaches_after (limit : Nat) (waiting before after : List (Steps ε α × Nat))
    (finished : List (α × Nat)) (n : Nat) (p : Steps ε α) (i : Nat) (w : World ε) :
    Reaches limit Anywhere (⟨waiting, before ++ (p, i) :: after, finished⟩, w)
      (⟨waiting, before ++ ((p.after n w).1, i) :: after, finished⟩, (p.after n w).2) := by
  induction n generalizing p w with
  | zero => cases p <;> exact .refl
  | succ n ih =>
    cases p with
    | done a => exact .refl
    | act m next => exact .head ⟨.advance, trivial⟩ (ih _ _)

/-- Two programs, of which the first makes `m` steps and the second `n`; then each goes on to its
end. -/
def crossed (m n : Nat) (p q : Steps ε α) : Run ε (α × α) := fun w =>
  let (p, w) := p.after m w
  let (q, w) := q.after n w
  (do return (← p.alone, ← q.alone) : Run ε (α × α)).run w

/-- **Two programs can run into each other.** -/
theorem reaches_crossed {limit : Nat} (hlimit : 2 ≤ limit) (m n : Nat) (p q : Steps ε α)
    (w : World ε) : ∃ x : Pool ε α,
      Reaches limit Anywhere (start [p, q], w) (x, ((crossed m n p q).run w).2) ∧ x.Ended ∧
        x.results = [((crossed m n p q).run w).1.1, ((crossed m n p q).run w).1.2] := by
  let x : Pool ε α := ⟨[], [], [(((crossed m n p q).run w).1.1, 0),
    (((crossed m n p q).run w).1.2, 1)]⟩
  refine ⟨x, ?_, ⟨rfl, rfl⟩, ?_⟩
  · refine .head ⟨.take (by simp; omega), trivial⟩ (.head ⟨.take (by simp; omega), trivial⟩ ?_)
    exact (((reaches_after limit [] [] [(q, 1)] [] m p 0 w).trans
      (reaches_after limit [] [((p.after m w).1, 0)] [] [] n q 1 _)).trans
      (reaches_done limit [] [] [((q.after n (p.after m w).2).1, 1)] [] _ 0 _)).trans
      (reaches_done limit [] [] [] [(_, 0)] _ 1 _)
  · rw [results, List.mergeSort_of_pairwise (by simp [x])]
    rfl

/-- Programs that are run by themselves, one after the other. -/
def inTurn : List (Steps ε α) → Run ε (List α)
  | [] => return []
  | p :: ps => do return (← p.alone) :: (← inTurn ps)

/-- **One program after the other** is one way to go. -/
theorem reaches_inTurn (hlimit : 0 < limit) (programs : List (Steps ε α)) (w : World ε) :
    ∃ y, Reaches limit Anywhere (start programs, w) (y, ((inTurn programs).run w).2) ∧ y.Ended ∧
      y.results = ((inTurn programs).run w).1 := by
  -- the results come in the order of the programs, so they are in order already
  have hgo : ∀ (ps : List (Steps ε α)) (k : Nat) (finished : List (α × Nat)) (w : World ε),
      Reaches limit Anywhere (⟨ps.zipIdx k, [], finished⟩, w)
        (⟨[], [], finished ++ (((inTurn ps).run w).1.zipIdx k)⟩, ((inTurn ps).run w).2) := by
    intro ps
    induction ps with
    | nil =>
      intro k finished w
      have hnil : finished ++ ((inTurn ([] : List (Steps ε α))).run w).1.zipIdx k = finished :=
        List.append_nil _
      rw [hnil]
      exact .refl
    | cons p ps ih =>
      intro k finished w
      refine .head ⟨.take hlimit, trivial⟩ ((reaches_done limit _ [] [] _ p k w).trans ?_)
      have hrest := ih (k + 1) (finished ++ [((p.alone.run w).1, k)]) (p.alone.run w).2
      rw [List.append_assoc] at hrest
      exact hrest
  refine ⟨_, hgo programs 0 [] w, ⟨rfl, rfl⟩, ?_⟩
  have hordered : (((inTurn programs).run w).1.zipIdx).Pairwise fun e e' =>
      decide (e.2 ≤ e'.2) = true := by
    have hnumbers : ((((inTurn programs).run w).1.zipIdx).map (·.2)).Pairwise (· ≤ ·) := by
      rw [List.zipIdx_map_snd]
      exact List.pairwise_le_range' 1
    exact (List.pairwise_map.1 hnumbers).imp decide_eq_true
  rw [results, List.nil_append, List.mergeSort_of_pairwise hordered, List.zipIdx_map_fst]

end Pool

end HarnessRepair

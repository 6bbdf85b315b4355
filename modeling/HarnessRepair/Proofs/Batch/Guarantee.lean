import HarnessRepair.Proofs.Batch.Steps

/-!
# What a program of steps guarantees

Between two steps of a program the others change the world.  What it can do is stated
against all that they may do: as long as the others respect what the program relies on,
each of its own steps respects what it guarantees, and it ends in a world as promised.  It may
also rely on what every world is like in which it gets its turn.

For the long way through a session it is enough to know its steps one by one: what each of
them respects, whatever the answers before, the session respects.

## Main definitions

* `Steps.Within P Q` — every step has the property `P`, and the end the property `Q`.
* `Steps.Ensures rely guar post` — what a program promises to others that it relies on.
* `Steps.passed` — the worlds that a program passes when it is run by itself.

## Main results

* `Steps.Ensures.bind` — one program after another.
* `Steps.Ensures.alone` — a program that is run by itself.
* `Steps.Within.ensures`, `Steps.Within.lockstep` — **from the steps to the program**, in
  one world, and in two that look the same.
-/

namespace HarnessRepair.Steps

variable {ε α β : Type}

/-! ### Step by step -/

/-- Every step of a program has the property `P` and its end the property `Q`, whatever the
answers are that the steps get. -/
def Within (P : ∀ β : Type, Run ε β → Prop) (Q : α → Prop) : Steps ε α → Prop
  | done a => Q a
  | act m next => P _ m ∧ ∀ w, (next (m.run w).1).Within P Q

namespace Within

variable {P : ∀ β : Type, Run ε β → Prop} {Q : α → Prop} {p : Steps ε α}

theorem pure {a : α} (h : Q a) : (Pure.pure a : Steps ε α).Within P Q := h

theorem step {m : Run ε α} (hm : P _ m) (h : ∀ w, Q (m.run w).1) : (Steps.step m).Within P Q :=
  ⟨hm, h⟩

theorem bind {f : α → Steps ε β} {R : β → Prop} (h : p.Within P Q)
    (hf : ∀ a, Q a → (f a).Within P R) : (p >>= f).Within P R := by
  induction p with
  | done a => exact hf a h
  | act m next ih => exact ⟨h.1, fun w => ih _ (h.2 w)⟩

/-- One step first. -/
theorem step_bind {m : Run ε β} {f : β → Steps ε α} (hm : P _ m)
    (h : ∀ w, (f (m.run w).1).Within P Q) : (Steps.step m >>= f).Within P Q := ⟨hm, h⟩

end Within

/-! ### By itself -/

/-- The worlds that a program passes when it is run by itself, up to the one in which it ends. -/
def passed : Steps ε α → World ε → List (World ε)
  | done _, w => [w]
  | act m next, w => w :: (next (m.run w).1).passed (m.run w).2

theorem mem_passed (p : Steps ε α) (w : World ε) : w ∈ p.passed w := by
  cases p <;> exact List.mem_cons_self

/-- What is left of a program that has made some steps by itself, and the world that it has come
to. -/
def after : Nat → Steps ε α → World ε → Steps ε α × World ε
  | n + 1, act m next, w => (next (m.run w).1).after n (m.run w).2
  | _, p, w => (p, w)

/-- What one program passes, it passes with another behind. -/
theorem mem_passed_bind {p : Steps ε α} {f : α → Steps ε β} {u w : World ε} :
    u ∈ (p >>= f).passed w ↔
      u ∈ p.passed w ∨ u ∈ (f (p.alone.run w).1).passed (p.alone.run w).2 := by
  induction p generalizing w with
  | done a =>
    refine ⟨Or.inr, fun h => h.elim (fun hu => ?_) id⟩
    rw [List.mem_singleton.1 hu]
    exact mem_passed (f a) w
  | act m next ih =>
    change u ∈ w :: (next (m.run w).1 >>= f).passed (m.run w).2 ↔ _
    rw [List.mem_cons, ih, passed, List.mem_cons, or_assoc]
    rfl

/-! ### Among others -/

/-- As long as the others change the world only as in `rely`, every step of the program
changes it as in `guar`, and the end of the program is as in `post`, and stays so. -/
def Ensures (rely guar : World ε → World ε → Prop) (post : α → World ε → Prop) :
    Steps ε α → World ε → Prop
  | done a, w => ∀ w', rely w w' → post a w'
  | act m next, w => ∀ w', rely w w' →
      guar w' (m.run w').2 ∧ (next (m.run w').1).Ensures rely guar post (m.run w').2

section

variable {rely guar : World ε → World ε → Prop} {post post' : α → World ε → Prop}
  {p : Steps ε α} {w w' : World ε}

namespace Ensures

/-- What a program promises, it promises still after the others have changed the world. -/
theorem weaken (htrans : ∀ u v w, rely u v → rely v w → rely u w)
    (h : p.Ensures rely guar post w) (hw : rely w w') : p.Ensures rely guar post w' := by
  cases p with
  | done a => exact fun u hu => h u (htrans _ _ _ hw hu)
  | act m next => exact fun u hu => h u (htrans _ _ _ hw hu)

theorem imp (h : p.Ensures rely guar post w) (himp : ∀ a w, post a w → post' a w) :
    p.Ensures rely guar post' w := by
  induction p generalizing w with
  | done a => exact fun u hu => himp a u (h u hu)
  | act m next ih => exact fun u hu => ⟨(h u hu).1, ih _ (h u hu).2⟩

theorem pure {a : α} (h : ∀ w', rely w w' → post a w') :
    (Pure.pure a : Steps ε α).Ensures rely guar post w := h

/-- What a program promises from all worlds that can come, it promises. -/
theorem of_rely (hstill : ∀ w w', rely w w' → rely w' w')
    (h : ∀ w', rely w w' → p.Ensures rely guar post w') : p.Ensures rely guar post w := by
  cases p with
  | done a => exact fun u hu => h u hu u (hstill w u hu)
  | act m next => exact fun u hu => h u hu u (hstill w u hu)

/-- **One program after another** promises what the second does. -/
theorem bind (hstill : ∀ w w', rely w w' → rely w' w') {f : α → Steps ε β}
    {after : β → World ε → Prop} (h : p.Ensures rely guar post w)
    (hf : ∀ a w', post a w' → (f a).Ensures rely guar after w') :
    (p >>= f).Ensures rely guar after w := by
  induction p generalizing w with
  | done a => exact of_rely hstill fun u hu => hf a u (h u hu)
  | act m next ih => exact fun u hu => ⟨(h u hu).1, ih _ (h u hu).2⟩

/-- One step first. -/
theorem step_bind {m : Run ε α} {f : α → Steps ε β} {after : β → World ε → Prop}
    (h : ∀ w', rely w w' →
      guar w' (m.run w').2 ∧ (f (m.run w').1).Ensures rely guar after (m.run w').2) :
    (step m >>= f).Ensures rely guar after w := h

/-- A program that is run by itself ends as promised, and all it does is guaranteed. -/
theorem alone (hstill : ∀ u ∈ p.passed w, rely u u) (hnone : ∀ w, guar w w)
    (htrans : ∀ u v w, guar u v → guar v w → guar u w) (h : p.Ensures rely guar post w) :
    post (p.alone.run w).1 (p.alone.run w).2 ∧ guar w (p.alone.run w).2 := by
  -- nobody else comes in, so `rely` is asked only of a world and itself
  induction p generalizing w with
  | done a => exact ⟨h w (hstill w (mem_passed _ w)), hnone w⟩
  | act m next ih =>
    obtain ⟨hfirst, hrest⟩ := List.forall_mem_cons.1 hstill
    obtain ⟨hguar, hnext⟩ := h w hfirst
    obtain ⟨hpost, hlater⟩ := ih _ hrest hnext
    exact ⟨hpost, htrans _ _ _ hguar hlater⟩

end Ensures

variable {P : ∀ β : Type, Run ε β → Prop} {Q : α → Prop}

/-- **What every step preserves, a program preserves**, among others that preserve it. -/
theorem Within.ensures {inv : World ε → Prop} (hrely : ∀ w w', rely w w' → inv w → inv w')
    (hstep : ∀ (β : Type) (m : Run ε β) (w : World ε), P β m → inv w →
      guar w (m.run w).2 ∧ inv (m.run w).2)
    (h : p.Within P Q) (hw : inv w) : p.Ensures rely guar (fun a w => Q a ∧ inv w) w := by
  induction p generalizing w with
  | done a => exact fun u hu => ⟨h, hrely w u hu hw⟩
  | act m next ih =>
    intro u hu
    -- first the others, then the step
    obtain ⟨hguar, hinv⟩ := hstep _ m u h.1 (hrely w u hu hw)
    exact ⟨hguar, ih _ (h.2 u) hinv⟩

/-- **In a world that looks the same, a program does the same**: if no step can tell the two
worlds apart, then among others that keep it so the program ends as it does by itself. -/
theorem Within.lockstep {same : World ε → World ε → Prop} {v : World ε}
    (hrely : ∀ w w' v, rely w w' → same w v → same w' v)
    (hstep : ∀ (β : Type) (m : Run ε β) (w v : World ε), P β m → same w v →
      guar w (m.run w).2 ∧ (m.run w).1 = (m.run v).1 ∧ same (m.run w).2 (m.run v).2)
    (h : p.Within P Q) (hw : same w v) :
    p.Ensures rely guar
      (fun a w' => Q a ∧ a = (p.alone.run v).1 ∧ same w' (p.alone.run v).2) w := by
  induction p generalizing w v with
  | done a => exact fun u hu => ⟨h, rfl, hrely w u v hu hw⟩
  | act m next ih =>
    intro u hu
    obtain ⟨hguar, heq, hsame⟩ := hstep _ m u v h.1 (hrely w u v hu hw)
    refine ⟨hguar, (ih _ (h.2 u) hsame).imp fun a w' hend => ?_⟩
    rw [heq] at hend
    exact hend

end

end HarnessRepair.Steps
